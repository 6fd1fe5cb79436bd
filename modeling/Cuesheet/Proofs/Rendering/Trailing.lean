import Cuesheet.Target.Catalog
import Cuesheet.Proofs.Rendering.Inversion
import Cuesheet.Proofs.Rendering.Renderable
import Cuesheet.Proofs.Target.Cypress
import Cuesheet.Proofs.Text.Lowercase

/-!
Where Cypress code trails off.

A conditional is said on one line, with the code of its action in between, and its end follows that
code. So whether the end is read at all depends on where the action's last line stops. A wait trails
off in a comment, and so do a step that is tried again and a disjunction, which are comments
altogether (`trails`). A conditional hands on what its action does, and a conjunction what its last
part with code does (`modeAfter_render`). The end of a conditional is live exactly if its action does
not trail off (`slashes_before_end_iff`).
-/

namespace Cuesheet

open Script

namespace Clause

mutual

/-- Whether the last line of a clause's code stops in a comment. -/
def trails : Clause → Bool
  | predicate _ | report .. | onFailure _ => false
  | wait .. | retryUntil .. | disjunction _ => true
  | conjunction parts => lastTrails parts
  | conditional _ action _ => partTrails action

/-- Whether the last of the clauses that have code trails off. -/
def lastTrails : List Clause → Bool
  | [] => false
  | part :: parts =>
    if parts.any renderable then lastTrails parts else part.renderable && part.trails

/-- Whether a part has code that trails off. -/
def partTrails : Option Clause → Bool
  | none => false
  | some part => part.renderable && part.trails

end

variable {d : Dialect} {e : Element} {source : Text}

theorem filterMap_render_eq_nil_iff {parts : List Clause} :
    parts.filterMap (render d e) = [] ↔ parts.any renderable = false := by
  rw [List.filterMap_eq_nil_iff, List.any_eq_false]
  refine forall₂_congr fun part _ => ?_
  rw [← isSome_render d e part, Bool.not_eq_true, Option.isSome_eq_false_iff, Option.isNone_iff_eq_none]

/-- The last part with code decides. -/
theorem modeAfter_stack_parts {parts : List Clause}
    (h : ∀ part ∈ parts, ∀ code ∈ part.render d e, modeAfter .code code = .ofComment part.trails)
    (hne : parts.filterMap (render d e) ≠ []) :
    modeAfter .code (Text.stack (parts.filterMap (render d e))) = .ofComment (lastTrails parts) := by
  induction parts with
  | nil => exact absurd rfl hne
  | cons part parts ih =>
    obtain ⟨hpart, hparts⟩ := List.forall_mem_cons.mp h
    rw [lastTrails]
    cases hany : parts.any renderable with
    | true =>
      have hrest : parts.filterMap (render d e) ≠ [] := fun hnil => by
        rw [filterMap_render_eq_nil_iff.mp hnil] at hany
        exact Bool.noConfusion hany
      rw [if_pos rfl, ← ih hparts hrest]
      cases hcode : part.render d e with
      | none => rw [List.filterMap_cons_none hcode]
      | some code => rw [List.filterMap_cons_some hcode, modeAfter_stack_cons hrest]
    | false =>
      have hnil : parts.filterMap (render d e) = [] := filterMap_render_eq_nil_iff.mpr hany
      cases hcode : part.render d e with
      | none => exact absurd (by rw [List.filterMap_cons_none hcode, hnil]) hne
      | some code =>
        have hrenderable : part.renderable = true := by rw [← isSome_render d e part, hcode]; rfl
        rw [List.filterMap_cons_some hcode, hnil, hrenderable]
        exact hpart code hcode

theorem modeAfter_alternativesComment (alternatives : List Text) :
    modeAfter .code (alternativesComment alternatives) = .comment := by
  refine modeAfter_stack (List.cons_ne_nil _ _) (List.forall_mem_cons.mpr ⟨rfl, ?_⟩)
  refine List.forall_mem_map.mpr fun l hl => ?_
  obtain ⟨code, -, hl⟩ := List.mem_flatMap.mp hl
  have hlead : modeAfter .code "//   " = .comment := rfl
  rw [modeAfter_append, hlead, modeAfter_comment (Text.unbroken_of_mem_lines hl)]

/-- The end of a conditional follows its action, or the wording of that. -/
theorem exists_before_end (hd : Target.cypress.dialect = some d) (hsource : Slashless source)
    (hselector : Slashless e.selector) {condition : Clause} {action : Option Clause} {wording : Text}
    (hcondition : condition.Normal source) (hwording : Piece source wording)
    (haction : ∀ part ∈ action, ∀ code ∈ part.render d e,
      modeAfter .code code = .ofComment part.trails)
    {code : Text} (hcode : (conditional condition action wording).render d e = some code) :
    ∃ before : Text, code = before ++ " \x7d \x7d);" ∧
      modeAfter .code before = .ofComment (partTrails action) := by
  obtain ⟨hcheck, checks, hchecks, rfl⟩ := render_conditional_eq_some hcode
  obtain ⟨hmode, -⟩ :=
    Target.Cypress.condition_ends_in_code hd hsource hselector hcondition hcheck hchecks
  obtain ⟨before, he, hbefore⟩ :=
    Target.Cypress.exists_conditional hd hmode ((action.bind (render d e)).getD wording)
  refine ⟨before, he, hbefore.trans ?_⟩
  have hworded : modeAfter .code wording = .code := (hsource.of_isInfix hwording.2).mode
  cases action with
  | none => exact hworded
  | some part =>
    rw [Option.bind_some, partTrails, ← isSome_render d e part]
    cases hpart : part.render d e with
    | none => exact hworded
    | some t => exact haction part rfl t hpart

/-- **A clause's code stops in a comment exactly if the clause trails off.** -/
theorem modeAfter_render (hd : Target.cypress.dialect = some d) (hsource : Slashless source)
    (hselector : Slashless e.selector) {c : Clause} (hc : c.Normal source) {code : Text}
    (hcode : c.render d e = some code) : modeAfter .code code = .ofComment c.trails := by
  induction hc generalizing code with
  | compares hname hvalue =>
    obtain rfl := Option.some.inj hcode
    exact (Target.Cypress.check_ends_in_code hd hsource hselector (.compares hname hvalue)).2
  | nthChild =>
    obtain rfl := Option.some.inj hcode
    exact (Target.Cypress.check_ends_in_code hd hsource hselector .nthChild).2
  | conjunction _ _ _ ih =>
    obtain ⟨hne, rfl⟩ := render_conjunction_eq_some hcode
    exact modeAfter_stack_parts (fun part hpart _ h => ih part hpart h) hne
  | disjunction _ _ _ _ =>
    rw [render_disjunction_eq_some hcode]
    exact modeAfter_alternativesComment _
  | conditional hcondition _ hwording _ ihaction =>
    obtain ⟨before, rfl, hbefore⟩ := exists_before_end hd hsource hselector hcondition hwording
      (fun part hpart _ h => ihaction part hpart h) hcode
    rw [modeAfter_append, hbefore, trails]
    cases partTrails _ <;> rfl
  | wait hwhat =>
    obtain rfl := Option.some.inj hcode
    exact Target.Cypress.modeAfter_wait hd hselector _ (hsource.of_isInfix hwhat.2).unbroken
  | retryUntil hcondition hwording _ =>
    obtain ⟨hcheck, rfl⟩ := render_retryUntil_eq_some hcode
    exact Target.Cypress.modeAfter_retryUntil hd _ (hsource.of_isInfix hwording.2).unbroken
  | report hmessage hcondition _ =>
    obtain ⟨hcheck, rfl⟩ := render_report_eq_some hcode
    refine Target.Cypress.modeAfter_report hd (hsource.of_isInfix hmessage.2) fun t ht => ?_
    obtain ⟨checks, hchecks, rfl⟩ := Option.map_eq_some_iff.mp ht
    obtain ⟨c, hmem, hrender⟩ := Option.bind_eq_some_iff.mp hchecks
    exact (Target.Cypress.condition_ends_in_code hd hsource hselector (hcondition c hmem)
      (hcheck c hmem) hrender).1
  | onFailure hhandler =>
    obtain rfl := Option.some.inj hcode
    exact Target.Cypress.modeAfter_onFailure hd (hsource.of_isInfix hhandler.2)

end Clause

theorem Script.Slashless.lower {t : Text} (h : Slashless t) : Slashless (Text.lower t) :=
  ⟨fun hc => h.no_slash (Text.IsMark.mem_of_mem_lower ⟨by decide, by decide⟩ hc),
    fun hc => h.unbroken (Text.IsMark.mem_of_mem_lower ⟨by decide, by decide⟩ hc)⟩

namespace Instruction

/-- **The end of a Cypress conditional is read exactly if its action does not trail off in a
comment**: on the last line, which it ends, two slashes stand before it exactly otherwise. -/
theorem slashes_before_end_iff {ceiling : Nat} {e : Element} {instruction wording code : Text}
    {condition : Clause} {action : Option Clause} (hinstruction : Slashless instruction)
    (hselector : Slashless e.selector)
    (hread : read ceiling instruction = some (.conditional condition action wording))
    (hcompile : compile ceiling .cypress e instruction = some code) :
    ∃ before : Text, (Text.lines code).getLast? = some (before ++ " \x7d \x7d);") ∧
      (("//" : Text) <:+: before ↔ Clause.partTrails action = true) := by
  obtain ⟨c, hc, hrender⟩ := Option.bind_eq_some_iff.mp hcompile
  obtain ⟨d, hd, hcode⟩ := Option.bind_eq_some_iff.mp hrender
  obtain rfl := Option.some.inj (hread.symm.trans hc)
  have hsource : Slashless (Text.lower (Text.trim instruction)) :=
    (hinstruction.of_isInfix (Text.trim_isInfix instruction)).lower
  cases read_normal hread with
  | conditional hcondition haction hwording =>
    obtain ⟨text, rfl, hmode⟩ := Clause.exists_before_end hd hsource hselector hcondition hwording
      (fun part hpart _ h => Clause.modeAfter_render hd hsource hselector (haction part hpart) h) hcode
    obtain ⟨before, hbefore, hlast⟩ := Text.exists_lastLine text
    have hend : Text.Unbroken (before ++ " \x7d \x7d);") := hbefore.append (by decide)
    have hne : before ++ (" \x7d \x7d);" : Text) ≠ [] :=
      List.append_ne_nil_of_right_ne_nil _ (by decide)
    have hstops : modeAfter .code before = .ofComment (Clause.partTrails action) := by
      rw [← hmode]
      rcases hlast with rfl | ⟨above, rfl⟩
      · rfl
      · rw [modeAfter_append, modeAfter_cons, Mode.next_break]
    refine ⟨before, ?_, ?_⟩
    · rcases hlast with rfl | ⟨above, rfl⟩
      · rw [Text.lines_of_unbroken hend hne]
        rfl
      · rw [List.append_assoc, List.cons_append, Text.getLast?_lines_append_break hend hne]
    · rw [← modeAfter_eq_comment_iff hbefore, hstops]
      cases Clause.partTrails action <;> decide

/-- A wait trails off: the end of the conditional is part of the comment. -/
theorem slashes_before_end_wait :
    let e : Element := ⟨"#a", "a"⟩
    let instruction : Text := "if text starts with 'a' then wait 5 seconds for x"
    let condition : Clause := .predicate (.compares .text .startsWith "a")
    let action : Option Clause := some (.wait 5000 "x")
    let code : Text := "cy.then(() => \x7b if (cy.get('#a').invoke('text').should('match', /^a/)) \x7b " ++
      "cy.get('#a', \x7b timeout: 5000 \x7d); // waiting for x \x7d \x7d);"
    Slashless instruction ∧ Slashless e.selector ∧
      read 16 instruction = some (.conditional condition action "wait 5 seconds for x") ∧
      compile 16 .cypress e instruction = some code ∧
      ∃ before : Text, (Text.lines code).getLast? = some (before ++ " \x7d \x7d);") ∧
        (("//" : Text) <:+: before ↔ Clause.partTrails action = true) := by
  intro e instruction condition action code
  have hinstruction : Slashless instruction := by decide +kernel
  have hselector : Slashless e.selector := by decide
  have hread : read 16 instruction =
      some (.conditional condition action "wait 5 seconds for x") := by decide +kernel
  have hcompile : compile 16 .cypress e instruction = some code := by
    rw [compile, hread]
    decide +kernel
  exact ⟨hinstruction, hselector, hread, hcompile,
    slashes_before_end_iff hinstruction hselector hread hcompile⟩

/-- So it is not so that the end of every conditional is read. -/
theorem not_forall_end_live :
    ¬ ∀ (ceiling : Nat) (e : Element) (instruction wording code : Text) (condition : Clause)
        (action : Option Clause),
      (∀ c ∈ instruction, c ∈ ("abcdefghijklmnopqrstuvwxyz0123456789 ,'" : Text)) →
      (∀ c ∈ e.selector, c ∉ ("/'\"\r\n" : Text)) →
      read ceiling instruction = some (.conditional condition action wording) →
      compile ceiling .cypress e instruction = some code →
      ∃ before : Text, (Text.lines code).getLast? = some (before ++ " \x7d \x7d);") ∧
        ¬ ("//" : Text) <:+: before := by
  intro h
  let e : Element := ⟨"#a", "a"⟩
  let instruction : Text := "if text starts with 'a' then wait 5 seconds for x"
  let line : Text := "cy.then(() => \x7b if (cy.get('#a').invoke('text').should('match', /^a/)) \x7b " ++
    "cy.get('#a', \x7b timeout: 5000 \x7d); // waiting for x"
  have hread : read 16 instruction = some (.conditional (.predicate (.compares .text .startsWith "a"))
      (some (.wait 5000 "x")) "wait 5 seconds for x") := by decide +kernel
  have hcompile : compile 16 .cypress e instruction = some (line ++ " \x7d \x7d);") := by
    rw [compile, hread]
    decide +kernel
  obtain ⟨before, hlast, hlive⟩ := h 16 e instruction _ _ _ _ (by decide +kernel) (by decide +kernel)
    hread hcompile
  have hone : (Text.lines (line ++ " \x7d \x7d);")).getLast? = some (line ++ " \x7d \x7d);") := by
    decide +kernel
  have hbefore : before = line :=
    List.append_cancel_right (Option.some.inj (hlast.symm.trans hone))
  have hslashes : ("//" : Text) <:+: line := by decide +kernel
  exact hlive (hbefore ▸ hslashes)

end Instruction

end Cuesheet
