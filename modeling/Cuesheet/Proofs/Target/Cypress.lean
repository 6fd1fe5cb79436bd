import Cuesheet.Target.Cypress
import Cuesheet.Proofs.Rendering.Condition
import Cuesheet.Proofs.Target.Blocks

/-!
Where Cypress code ends.

Of the text that an element or an instruction brings along no slash is left over to begin a comment,
so a check ends in code and so does a condition made of checks. A report and a handler end in code
too; a wait ends in a comment, and a step that is tried again is one. A conditional leaves a reader
where the code of its action does, and only then comes its end (`exists_conditional`).
-/

namespace Cuesheet

open Script

namespace Target

namespace Cypress

variable {e : Element} {subject : Subject} {value : Text}

theorem slashless_read (hselector : Slashless e.selector)
    (hname : ∀ name, subject = .attribute name → Slashless name) : Slashless (read e subject) := by
  have hget : Slashless (("cy.get('" : Text) ++ e.selector) := .append (by decide) hselector
  match subject, hname with
  | .text, _ | .value, _ => exact hget.append (by decide)
  | .attribute name, hname =>
    exact hget.append (.append (.append (by decide) (hname name rfl)) (by decide))

theorem not_mem_read {c : Char} (hc : c ∈ lineEnds) (hselector : c ∉ e.selector)
    (hname : ∀ name, subject = .attribute name → c ∉ name) : c ∉ read e subject := by
  have hget : c ∉ ("cy.get('" : Text) ++ e.selector :=
    List.not_mem_append (Inline.not_mem (by decide) hc) hselector
  match subject, hname with
  | .text, _ | .value, _ => exact List.not_mem_append hget (Inline.not_mem (by decide) hc)
  | .attribute name, hname =>
    exact List.not_mem_append hget
      ((Inline.mem_between_iff hc (by decide) (by decide)).not.mpr (hname name rfl))

theorem call_compares (e : Element) (subject : Subject) (comparison : Comparison) (value : Text) :
    Call (compares e subject comparison value) where
  head := ⟨'c', rfl, by decide⟩
  closed := by
    refine List.suffix_append_of_suffix ?_
    cases comparison with
    | notContains | startsWith | endsWith => exact List.suffix_append_of_suffix (by decide)

/-- Where lines end in a comparison, they end in the value. -/
theorem mem_compares_iff {c : Char} (hc : c ∈ lineEnds) (hselector : c ∉ e.selector)
    (hname : ∀ name, subject = .attribute name → c ∉ name) (comparison : Comparison) :
    c ∈ compares e subject comparison value ↔ c ∈ value := by
  have hslash : c ≠ '\\' := fun he => absurd hc (he ▸ by decide)
  unfold compares
  rw [List.mem_append, or_iff_right (not_mem_read hc hselector hname)]
  cases comparison with
  | notContains =>
    exact Inline.mem_between_iff hc (by decide) (by decide)
  | startsWith | endsWith =>
    exact (Inline.mem_between_iff hc (by decide) (by decide)).trans (mem_literalPattern_iff hslash)

theorem statement_compares (hselector : Text.Unbroken e.selector)
    (hname : ∀ name, subject = .attribute name → Text.Unbroken name) (hvalue : Text.Unbroken value)
    (comparison : Comparison) : Statement (compares e subject comparison value) where
  toCall := call_compares e subject comparison value
  unbroken := (mem_compares_iff (by decide) hselector hname comparison).not.mpr hvalue

theorem modeAfter_compares (hselector : Slashless e.selector)
    (hname : ∀ name, subject = .attribute name → Slashless name) (hvalue : Slashless value)
    (hne : value ≠ []) (comparison : Comparison) :
    modeAfter .code (compares e subject comparison value) = .code := by
  have hread := (slashless_read hselector hname).mode
  unfold compares
  rw [modeAfter_append, hread]
  cases comparison with
  | notContains =>
    exact (Slashless.append (.append (by decide) hvalue) (by decide)).mode
  | startsWith =>
    have hopen : modeAfter .code ".should('match', /^" = .code := rfl
    have hclose : modeAfter .code "/);" = .code := rfl
    rw [modeAfter_append, modeAfter_append, hopen, hvalue.literalPattern.mode, hclose]
  | endsWith =>
    have hopen : modeAfter .code ".should('match', /" = .slash := rfl
    have hpattern : modeAfter .slash (Text.literalPattern value) = .code :=
      modeAfter_slash hvalue.literalPattern.no_slash (literalPattern_ne_nil hne)
    have hclose : modeAfter .code "$/);" = .code := rfl
    rw [modeAfter_append, modeAfter_append, hopen, hpattern, hclose]

variable {d : Dialect}

theorem slashless_nthChild (hd : cypress.dialect = some d) (hselector : Slashless e.selector)
    (n : Nat) : Slashless (d.nthChild e n) := by
  obtain rfl := Option.some.inj hd
  exact .append (.append (.append (.append (by decide) hselector) (by decide)) (inert_ofNat n).slashless)
    (by decide)

theorem call_nthChild (hd : cypress.dialect = some d) (e : Element) (n : Nat) :
    Call (d.nthChild e n) := by
  obtain rfl := Option.some.inj hd
  exact ⟨⟨'c', rfl, by decide⟩, List.suffix_append_of_suffix (by decide)⟩

theorem not_mem_nthChild (hd : cypress.dialect = some d) {c : Char} (hc : c ∈ lineEnds)
    (hselector : c ∉ e.selector) (n : Nat) : c ∉ d.nthChild e n := by
  obtain rfl := Option.some.inj hd
  have hget : c ∉ ("cy.get('" : Text) ++ e.selector ++ ":nth-child(" :=
    (Inline.mem_between_iff hc (by decide) (by decide)).not.mpr hselector
  exact (mem_between_iff hget (Inline.not_mem (by decide) hc)).not.mpr ((inline_ofNat n).not_mem hc)

theorem statement_nthChild (hd : cypress.dialect = some d) (hselector : Text.Unbroken e.selector)
    (n : Nat) : Statement (d.nthChild e n) :=
  ⟨call_nthChild hd e n, not_mem_nthChild hd (by decide) hselector n⟩

variable {source : Text}

/-- A check is a call on one line, and no comment begins on it. -/
theorem check_ends_in_code (hd : cypress.dialect = some d) (hsource : Slashless source)
    (hselector : Slashless e.selector) {check : Predicate}
    (hcheck : (Clause.predicate check).Normal source) :
    Statement (d.check e check) ∧ modeAfter .code (d.check e check) = .code := by
  cases hcheck with
  | compares hname hvalue =>
    have hname' := fun name h => hsource.of_isInfix (hname name h).2
    have hvalue' := hsource.of_isInfix hvalue.2
    obtain rfl := Option.some.inj hd
    exact ⟨statement_compares hselector.unbroken (fun name h => (hname' name h).unbroken)
      hvalue'.unbroken _, modeAfter_compares hselector hname' hvalue' hvalue.1 _⟩
  | nthChild =>
    exact ⟨statement_nthChild hd hselector.unbroken _, (slashless_nthChild hd hselector _).mode⟩

theorem condition_ends_in_code (hd : cypress.dialect = some d) (hsource : Slashless source)
    (hselector : Slashless e.selector) {c : Clause} (hc : c.Normal source) (hcheck : c.isCheck = true)
    {code : Text} (hcode : c.render d e = some code) :
    modeAfter .code (conditionOf code) = .code ∧ Text.Unbroken (conditionOf code) := by
  have hand : modeAfter .code " && " = .code := rfl
  refine hc.condition (P := fun t => modeAfter .code t = .code) (fun _ => modeAfter_join hand)
    (fun {check} hnormal => ?_) hcheck hcode
  obtain ⟨hstatement, hmode⟩ := check_ends_in_code hd hsource hselector hnormal
  obtain ⟨call, he, hdrop⟩ := hstatement.exists_call
  exact ⟨hstatement, by rw [hdrop]; exact modeAfter_of_semicolon (he ▸ hmode)⟩

/-! ### Where the other constructs end -/

/-- A conditional leaves the reader where its action does, and its end is at the end of the line. -/
theorem exists_conditional (hd : cypress.dialect = some d) {condition : Text}
    (hcondition : modeAfter .code condition = .code) (action : Text) :
    ∃ before : Text, d.conditional condition action = before ++ " \x7d \x7d);" ∧
      modeAfter .code before = modeAfter .code action := by
  obtain rfl := Option.some.inj hd
  refine ⟨_, rfl, ?_⟩
  have hif : modeAfter .code "cy.then(() => \x7b if (" = .code := rfl
  have hthen : modeAfter .code ") \x7b " = .code := rfl
  rw [modeAfter_append, modeAfter_append, modeAfter_append, hif, hcondition, hthen]

theorem modeAfter_wait (hd : cypress.dialect = some d) (hselector : Slashless e.selector)
    (milliseconds : Nat) {what : Text} (hwhat : Text.Unbroken what) :
    modeAfter .code (d.wait e milliseconds what) = .comment := by
  obtain rfl := Option.some.inj hd
  have hcall : Slashless (("cy.get('" : Text) ++ e.selector ++ "', \x7b timeout: " ++
      Text.ofNat milliseconds) :=
    .append (.append (.append (by decide) hselector) (by decide)) (inert_ofNat milliseconds).slashless
  have hclose : modeAfter .code " \x7d); // waiting for " = .comment := rfl
  show modeAfter .code (_ ++ _ ++ what) = .comment
  rw [modeAfter_append, modeAfter_append, hcall.mode, hclose, modeAfter_comment hwhat]

theorem modeAfter_retryUntil (hd : cypress.dialect = some d) (condition : Option Text) {wording : Text}
    (hwording : Text.Unbroken wording) : modeAfter .code (d.retryUntil condition wording) = .comment := by
  obtain rfl := Option.some.inj hd
  have hlead : modeAfter .code
      "// Retry logic: use cy.retry-until plugin or custom loop for: " = .comment := rfl
  show modeAfter .code (_ ++ wording) = .comment
  rw [modeAfter_append, hlead, modeAfter_comment hwording]

theorem modeAfter_report (hd : cypress.dialect = some d) {message : Text} {condition : Option Text}
    (hmessage : Slashless message) (hcondition : ∀ c ∈ condition, modeAfter .code c = .code) :
    modeAfter .code (d.report message condition) = .code := by
  obtain rfl := Option.some.inj hd
  cases condition with
  | none => exact (Slashless.append (.append (by decide) hmessage) (by decide)).mode
  | some condition =>
    have hif : modeAfter .code "if (" = .code := rfl
    have hlog : Slashless (") \x7b " ++ ("cy.log" ++ ("('" ++ (message ++ "'); \x7d")))) :=
      .append (by decide) (.append (by decide) (.append (by decide) (.append hmessage (by decide))))
    show modeAfter .code (_ ++ condition ++ _ ++ _ ++ _ ++ message ++ _) = .code
    simp only [List.append_assoc]
    rw [modeAfter_append, modeAfter_append, hif, hcondition condition rfl]
    exact hlog.mode

theorem modeAfter_onFailure (hd : cypress.dialect = some d) {handler : Text}
    (hhandler : Slashless handler) : modeAfter .code (d.onFailure handler) = .code := by
  obtain rfl := Option.some.inj hd
  exact (Slashless.append (.append (by decide) hhandler) (by decide)).mode

end Cypress

end Target

end Cuesheet
