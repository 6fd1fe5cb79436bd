import Cuesheet.Proofs.Instruction.NormalForm
import Cuesheet.Proofs.Rendering.Inversion
import Cuesheet.Proofs.Target.Check
import Cuesheet.Proofs.Text.Lowercase

/-!
Words of an instruction in a comment.

What is waited for is told in a comment behind a call, and a step that is tried again is told in a
comment altogether. The words are put there as they are. So the code is one line exactly if no line of
a script ends in the words, and what comes after such an end is read as a line of its own
(`remark_iff`). An instruction on one line keeps its words in their comment.
-/

namespace Cuesheet

open Script

/-! ### Code shapes of remarks -/

namespace Framework

variable {f : Framework} {d : Dialect} {e : Element}

/-- The words that a framework tells of a step that is tried again: Cypress its wording, the others
the condition where there is an expression for it. -/
def retryWords (f : Framework) (condition : Option Text) (wording : Text) : Text :=
  match f with
  | .cypress => wording
  | _ => condition.getD wording

/-- The words told are the wording or the condition. -/
theorem retryWords_of {P : Text → Prop} (f : Framework) {condition : Option Text} {wording : Text}
    (hcondition : ∀ t ∈ condition, P t) (hwording : P wording) :
    P (f.retryWords condition wording) := by
  have hgetD : P (condition.getD wording) := by
    cases condition with
    | none => exact hwording
    | some t => exact hcondition t rfl
  cases f with
  | cypress => exact hwording
  | plain | playwright | selenium => exact hgetD

/-- A wait is a call on one line, and a comment with what is waited for. -/
theorem exists_wait (hd : f.dialect = some d) (hselector : Inline e.selector)
    (hlocator : Inline e.locator) (milliseconds : Nat) (what : Text) :
    ∃ call : Text, Inline call ∧ d.wait e milliseconds what = call ++ ("// waiting for " ++ what) := by
  have hcall : ∀ {a b c t : Text}, Inline a → Inline t → Inline b → Inline c →
      Inline (a ++ t ++ b ++ Text.ofNat milliseconds ++ c) := fun ha ht hb hc =>
    .append (.append (.append (.append ha ht) hb) (inline_ofNat milliseconds)) hc
  cases f with
  | plain => cases hd
  | playwright =>
    obtain rfl := Option.some.inj hd
    refine ⟨("await " : Text) ++ e.locator ++ ".waitFor(\x7b timeout: " ++ Text.ofNat milliseconds ++
      " \x7d); ", hcall (by decide) hlocator (by decide) (by decide), ?_⟩
    simp only [List.append_assoc]
    rfl
  | cypress =>
    obtain rfl := Option.some.inj hd
    refine ⟨("cy.get('" : Text) ++ e.selector ++ "', \x7b timeout: " ++ Text.ofNat milliseconds ++
      " \x7d); ", hcall (by decide) hselector (by decide) (by decide), ?_⟩
    simp only [List.append_assoc]
    rfl
  | selenium =>
    obtain rfl := Option.some.inj hd
    refine ⟨("await driver.wait(until.elementLocated(By.cssSelector('" : Text) ++ e.selector ++
      "')), " ++ Text.ofNat milliseconds ++ "); ", hcall (by decide) hselector (by decide) (by decide),
      ?_⟩
    simp only [List.append_assoc]
    rfl

/-- A step that is tried again is a comment around its words. -/
theorem exists_retryUntil (hd : f.dialect = some d) (condition : Option Text) (wording : Text) :
    ∃ lead tail : Text, Inline lead ∧ ("//" : Text) <+: lead ∧ Inline tail ∧ tail.head? ≠ some '/' ∧
      d.retryUntil condition wording = lead ++ (f.retryWords condition wording ++ tail) := by
  have htold : ∀ words : Text, Target.retryComment words =
      "// Retry logic: while (!(await (" ++ (words ++ "))) \x7b /* retry */ \x7d") := fun words =>
    List.append_assoc ..
  cases f with
  | plain => cases hd
  | playwright | selenium =>
    obtain rfl := Option.some.inj hd
    exact ⟨_, _, by decide, by decide, by decide, by decide, htold _⟩
  | cypress =>
    obtain rfl := Option.some.inj hd
    refine ⟨"// Retry logic: use cy.retry-until plugin or custom loop for: ", [], by decide, by decide,
      by decide, by decide, ?_⟩
    rw [List.append_nil]
    rfl

/-- In a check of an inline text no line of a script ends. -/
theorem inline_check (hd : f.dialect = some d) (hselector : Inline e.selector)
    (hlocator : Inline e.locator) {source : Text} (hsource : Inline source) {check : Predicate}
    (hcheck : (Clause.predicate check).Normal source) : Inline (d.check e check) := by
  have hkept : Inline check.name ∧ Inline check.value := by
    cases hcheck with
    | @compares subject comparison value hname hvalue =>
      refine ⟨?_, hsource.of_isInfix hvalue.2⟩
      match subject, hname with
      | .text, _ | .value, _ => exact List.forall_mem_nil _
      | .attribute name, hname => exact hsource.of_isInfix (hname name rfl).2
    | nthChild => exact ⟨List.forall_mem_nil _, List.forall_mem_nil _⟩
  refine inline_iff.mpr fun c hc => ?_
  exact (f.mem_check_iff hd hc (hselector.not_mem hc) (hlocator.not_mem hc)
    (hkept.1.not_mem hc)).not.mpr (hkept.2.not_mem hc)

end Framework

/-- Lower-casing ends no line. -/
theorem Script.Inline.lower {t : Text} (h : Inline t) : Inline (Text.lower t) := by
  intro c hc hend
  have hblank : ∀ c ∈ lineEnds, Text.isBlank c = true := by decide
  exact h c (Text.mem_of_mem_lower_of_isBlank (hblank c hend) hc) hend

/-! ### Lines that begin with two slashes -/

/-- Whether a text begins with two slashes is not up to what follows it, unless that begins with one. -/
theorem slashes_prefix_append_iff {tail : Text} (h : tail.head? ≠ some '/') (t : Text) :
    ("//" : Text) <+: t ++ tail ↔ ("//" : Text) <+: t := by
  have hslash : ∀ rest : Text, ¬ '/' :: rest <+: tail := by
    rintro rest ⟨u, rfl⟩
    exact h rfl
  match t with
  | [] => exact iff_of_false (hslash ['/']) (by decide)
  | [c] =>
    refine iff_of_false (fun hp => ?_) (fun hp => ?_)
    · exact hslash [] (List.cons_prefix_cons.mp hp).2
    · exact absurd (List.cons_prefix_cons.mp hp).2 (by decide)
  | c :: c' :: t =>
    show '/' :: '/' :: [] <+: c :: c' :: (t ++ tail) ↔ '/' :: '/' :: [] <+: c :: c' :: t
    rw [List.cons_prefix_cons, List.cons_prefix_cons, List.cons_prefix_cons, List.cons_prefix_cons]
    simp only [List.nil_prefix]

/-- In a comment around some words, the first line is always one of comment. -/
theorem forall_slashes_iff {lead tail : Text} (hlead : Inline lead) (hslashes : ("//" : Text) <+: lead)
    (htail : Inline tail) (hhead : tail.head? ≠ some '/') (words : Text) :
    (∀ l ∈ sourceLines (lead ++ (words ++ tail)), ("//" : Text) <+: l) ↔
      ∀ l ∈ (sourceLines words).tail, ("//" : Text) <+: l := by
  obtain ⟨above, last, hwords, htold⟩ := htail.exists_lastLine words
  have hfirst : ∀ l : Text, ("//" : Text) <+: lead ++ l := fun l =>
    hslashes.trans (List.prefix_append lead l)
  rw [hlead.sourceLines_append, htold, hwords]
  cases above with
  | nil => exact iff_of_true (List.forall_mem_singleton.mpr (hfirst _)) (List.forall_mem_nil _)
  | cons first above =>
    rw [List.cons_append, List.cons_append, List.modifyHead_cons, List.forall_mem_cons,
      List.tail_cons, List.forall_mem_append, List.forall_mem_append, List.forall_mem_singleton,
      List.forall_mem_singleton, slashes_prefix_append_iff hhead]
    exact and_iff_right (hfirst first)

/-! ### Instructions -/

namespace Instruction

/-- The expression of a condition of an inline text is inline. -/
theorem inline_condition {f : Framework} {d : Dialect} (hd : f.dialect = some d) {e : Element}
    (hselector : Inline e.selector) (hlocator : Inline e.locator) {source : Text}
    (hsource : Inline source) {c : Clause} (hc : c.Normal source) (hcheck : c.isCheck = true)
    {code : Text} (hcode : c.render d e = some code) : Inline (conditionOf code) := by
  have hand : Inline " && " := by decide
  refine (hc.condition (P := Inline) (fun _ => (inline_join_iff hand).mpr) (fun {check} hnormal => ?_)
    hcheck hcode).1
  have hinline := f.inline_check hd hselector hlocator hsource hnormal
  exact ⟨⟨f.call_check hd e check, hinline.unbroken⟩,
    hinline.of_isInfix (List.dropLast_prefix _).isInfix⟩

/-- **The words of an instruction stay in their comment exactly as far as they are on one line.** A
wait is one line of a script, with what is waited for at its end, exactly if that is inline. The code
of a step that is tried again is made of comments exactly if all lines of its words but the first are.
Both hold of every instruction that is written on one line. -/
theorem remark_iff {f : Framework} {d : Dialect} (hd : f.dialect = some d) {e : Element}
    (hselector : Inline e.selector) (hlocator : Inline e.locator) {ceiling : Nat}
    {instruction code : Text} {c : Clause} (hread : read ceiling instruction = some c)
    (hcompile : compile ceiling f e instruction = some code) :
    (∀ milliseconds what, c = .wait milliseconds what →
      (∃ call : Text, Inline call ∧ code = call ++ ("// waiting for " ++ what)) ∧
        (Inline code ↔ Inline what) ∧ (Inline (Text.trim instruction) → Inline code)) ∧
    ∀ condition wording, c = .retryUntil condition wording →
      let words := f.retryWords ((condition.bind (Clause.render d e)).map conditionOf) wording
      ((∀ l ∈ sourceLines code, ("//" : Text) <+: l) ↔
        ∀ l ∈ (sourceLines words).tail, ("//" : Text) <+: l) ∧
        (Inline (Text.trim instruction) → Inline code ∧ ("//" : Text) <+: code) := by
  have hcode : c.render d e = some code := by
    rw [compile, hread, Option.bind_some, Clause.renderFor, hd, Option.bind_some] at hcompile
    exact hcompile
  have hnormal := read_normal hread
  refine ⟨?_, ?_⟩
  · rintro milliseconds what rfl
    obtain rfl := Option.some.inj hcode
    obtain ⟨call, hcall, hwait⟩ := f.exists_wait hd hselector hlocator milliseconds what
    have hiff : Inline (d.wait e milliseconds what) ↔ Inline what := by
      rw [hwait, inline_append_iff, inline_append_iff]
      exact ⟨fun h => h.2.2, fun h => ⟨hcall, by decide, h⟩⟩
    refine ⟨⟨call, hcall, hwait⟩, hiff, fun hinstruction => hiff.mpr ?_⟩
    cases hnormal with
    | wait hwhat => exact hinstruction.lower.of_isInfix hwhat.2
  · rintro condition wording rfl words
    obtain ⟨hcheck, rfl⟩ := Clause.render_retryUntil_eq_some hcode
    obtain ⟨lead, tail, hlead, hslashes, htail, hhead, hretry⟩ := f.exists_retryUntil hd
      ((condition.bind (Clause.render d e)).map conditionOf) wording
    rw [hretry]
    refine ⟨forall_slashes_iff hlead hslashes htail hhead words, fun hinstruction => ?_⟩
    have hwords : Inline words := by
      cases hnormal with
      | retryUntil hcondition hwording =>
        refine f.retryWords_of (fun t ht => ?_) (hinstruction.lower.of_isInfix hwording.2)
        obtain ⟨checks, hchecks, rfl⟩ := Option.map_eq_some_iff.mp ht
        obtain ⟨part, hpart, hrender⟩ := Option.bind_eq_some_iff.mp hchecks
        exact inline_condition hd hselector hlocator hinstruction.lower (hcondition part hpart)
          (hcheck part hpart) hrender
    exact ⟨hlead.append (hwords.append htail), hslashes.trans (List.prefix_append _ _)⟩

/-- A condition on one line is told as an expression on one line. -/
theorem remark_iff_one_line :
    let e : Element := ⟨"#a", "page.locator('#a')"⟩
    let retry : Text := "retry until text ends with '; b'"
    let check : Clause := .predicate (.compares .text .endsWith "; b")
    let line : Text := "// Retry logic: while (!(await (" ++
      "expect(await page.locator('#a').textContent()).toMatch(/; b$/)))) \x7b /* retry */ \x7d"
    Inline e.selector ∧ Inline e.locator ∧
      read 16 retry = some (.retryUntil (some check) "text ends with '; b'") ∧
      compile 16 .playwright e retry = some line ∧ Inline (Text.trim retry) ∧
      Inline line ∧ ("//" : Text) <+: line := by
  intro e retry check line
  have hselector : Inline e.selector := by decide
  have hlocator : Inline e.locator := by decide
  have hread : read 16 retry = some (.retryUntil (some check) "text ends with '; b'") := by
    decide +kernel
  have hcompile : compile 16 .playwright e retry = some line := by
    rw [compile, hread]
    decide +kernel
  have hinline : Inline (Text.trim retry) := by decide +kernel
  obtain ⟨-, hretry⟩ := remark_iff rfl hselector hlocator hread hcompile
  exact ⟨hselector, hlocator, hread, hcompile, hinline, (hretry _ _ rfl).2 hinline⟩

/-- So the words do not always stay there: those on further lines of a wait or of a step that is tried
again are code. -/
theorem not_forall_remark_inline :
    (¬ ∀ (f : Framework) (e : Element) (ceiling : Nat) (instruction code what : Text)
        (milliseconds : Nat), Inline e.selector → Inline e.locator →
      read ceiling instruction = some (.wait milliseconds what) →
      compile ceiling f e instruction = some code → Inline code) ∧
    ¬ ∀ (f : Framework) (e : Element) (ceiling : Nat) (instruction code wording : Text)
        (condition : Option Clause), Inline e.selector → Inline e.locator →
      read ceiling instruction = some (.retryUntil condition wording) →
      compile ceiling f e instruction = some code → ∀ l ∈ sourceLines code, ("//" : Text) <+: l := by
  let e : Element := ⟨"#a", "page.locator('#a')"⟩
  constructor
  · intro h
    have hread : read 16 "wait 5 seconds for the list\nto load" =
        some (.wait 5000 "the list\nto load") := by decide +kernel
    have hinline := h .playwright e 16 _ _ _ _ (by decide) (by decide) hread
      (by rw [compile, hread]; rfl)
    exact absurd hinline (by decide)
  · intro h
    have hread : read 16 "retry until it works\nalert(1)" =
        some (.retryUntil none "it works\nalert(1)") := by decide +kernel
    have hlines := h .cypress e 16 _ _ _ _ (by decide) (by decide) hread
      (by rw [compile, hread]; rfl)
    exact absurd (hlines "alert(1)" (by decide)) (by decide)

end Instruction

end Cuesheet
