import Cuesheet.Proofs.Instruction.NormalForm
import Cuesheet.Proofs.Target.Check
import Cuesheet.Proofs.Text.Word

/-!
Guards.

A conditional and a report may stand under a guard, an expression that is put together again from the
code of the checks. It asks for exactly those checks, call by call, as long as no value that they
compare with holds a line feed (`guard_exact_iff`): there the code is cut as if another check began,
and the value comes out changed.
-/

namespace Cuesheet

/-- The expression that asks for some checks: their calls without semicolons, joined by "and". -/
def Dialect.guard (d : Dialect) (e : Element) (checks : List Predicate) : Text :=
  Text.join " && " (checks.map fun check => (d.check e check).dropLast)

namespace Clause

variable {d : Dialect} {e : Element} {c : Clause}

/-- The code of a condition is that of its checks, one below the other. -/
theorem render_of_isCheck (h : c.isCheck = true) (d : Dialect) (e : Element) :
    c.render d e = some (Text.stack (c.checks.map (d.check e))) := by
  obtain ⟨check, rfl⟩ | ⟨check, checks, rfl⟩ := isCheck_cases h
  · rfl
  · rw [checks_conjunction, render, renderAll_predicates]
    rfl

/-- A condition asks for exactly its checks if none of them breaks. -/
theorem conditionOf_checks_iff {f : Framework} (hd : f.dialect = some d)
    (hselector : Text.Unbroken e.selector) (hlocator : Text.Unbroken e.locator)
    {checks : List Predicate} (hnames : ∀ check ∈ checks, Text.Unbroken check.name) :
    conditionOf (Text.stack (checks.map (d.check e))) = d.guard e checks ↔
      ∀ check ∈ checks, Text.Unbroken check.value := by
  have hcalls : ∀ t ∈ checks.map (d.check e), Call t :=
    List.forall_mem_map.mpr fun check _ => f.call_check hd e check
  have hguard : d.guard e checks = Text.join " && " ((checks.map (d.check e)).map List.dropLast) := by
    rw [List.map_map]
    rfl
  rw [hguard, conditionOf_stack_iff hcalls, List.forall_mem_map]
  refine forall₂_congr fun check hmem => ?_
  exact (f.mem_check_iff hd (by decide) hselector hlocator (hnames check hmem)).not

end Clause

namespace Instruction

/-- What can name an attribute does not break. -/
theorem unbroken_name_of_named {subject : Subject} (h : Named subject) (comparison : Comparison)
    (value : Text) : Text.Unbroken (Predicate.compares subject comparison value).name := by
  match subject, h with
  | .text, _ | .value, _ => exact List.not_mem_nil
  | .attribute name, h => exact fun hbreak => absurd (h.chars '\n' hbreak) (by decide)

/-- The names of attributes in what is read do not break. -/
theorem unbroken_name_of_read {ceiling : Nat} {x : Text} {c : Clause}
    (h : read ceiling x = some c) : ∀ check ∈ c.checks, Text.Unbroken check.name := by
  refine read_induction (P := fun _ c => ∀ check ∈ c.checks, Text.Unbroken check.name) ?_ h
  intro reader t c p _ hread _ hclaim check hcheck
  cases says_of_claim hclaim with
  | conjunction =>
    obtain hpred | ⟨parts, hparts, hpart⟩ := Clause.mem_checks hcheck
    · exact Clause.noConfusion hpred
    · obtain rfl := Clause.conjunction.inj hparts
      obtain ⟨s, -, hs⟩ := List.mem_filterMap.mp hpart
      exact hread s _ hs check (List.mem_singleton_self check)
  | check hfind =>
    obtain rfl := List.mem_singleton.mp hcheck
    obtain ⟨_, _, -, hbare⟩ := afterNames_eq_some hfind
    exact unbroken_name_of_named (bareComparison?_eq_some hbare).1 _ _
  | nthChild =>
    obtain rfl := List.mem_singleton.mp hcheck
    exact List.not_mem_nil
  | _ => exact absurd hcheck List.not_mem_nil

/-- A condition is read from an operand. -/
theorem exists_read_condition {ceiling : Nat} {x : Text} {c condition : Clause}
    (h : read ceiling x = some c)
    (hc : (∃ action wording, c = .conditional condition action wording) ∨
      ∃ message, c = .report message (some condition)) :
    ∃ below operand, read below operand = some condition := by
  obtain ⟨below, p, -, -, hclaim, -⟩ := exists_claim_of_read h
  obtain ⟨action, wording, rfl⟩ | ⟨message, rfl⟩ := hc
  · cases says_of_claim hclaim with
    | conditional _ hcondition => exact ⟨below, _, hcondition⟩
  · cases says_of_claim hclaim with
    | guardedReport _ hcondition => exact ⟨below, _, hcondition⟩

/-- **A guard asks for exactly the checks it was made of, unless a value breaks.** Each check is a call
with a semicolon behind it. The guard of a conditional or of a report is the calls of its checks joined
by "and" exactly if no value that they compare with holds a line feed. -/
theorem guard_exact_iff {f : Framework} {d : Dialect} (hd : f.dialect = some d) {e : Element}
    (hselector : Text.Unbroken e.selector) (hlocator : Text.Unbroken e.locator) {ceiling : Nat}
    {instruction : Text} {c condition : Clause} (hread : read ceiling instruction = some c)
    (hcheck : condition.isCheck = true) :
    (∀ check ∈ condition.checks,
      (Clause.predicate check).renderFor f e = some ((d.check e check).dropLast ++ ";")) ∧
    (∀ action wording, c = .conditional condition action wording →
      ∃ guard : Text, compile ceiling f e instruction =
          some (d.conditional guard ((action.bind (Clause.render d e)).getD wording)) ∧
        (guard = d.guard e condition.checks ↔
          ∀ check ∈ condition.checks, Text.Unbroken check.value)) ∧
    ∀ message, c = .report message (some condition) →
      ∃ guard : Text, compile ceiling f e instruction = some (d.report message (some guard)) ∧
        (guard = d.guard e condition.checks ↔
          ∀ check ∈ condition.checks, Text.Unbroken check.value) := by
  have hrender := Clause.render_of_isCheck hcheck d e
  have hcompile : compile ceiling f e instruction = c.render d e := by
    rw [compile, hread, Option.bind_some, Clause.renderFor, hd, Option.bind_some]
  refine ⟨fun check _ => ?_, ?_, ?_⟩
  · rw [Clause.renderFor, hd, Option.bind_some, Clause.render, ← (f.call_check hd e check).eq_dropLast]
  · rintro action wording rfl
    obtain ⟨below, operand, hoperand⟩ := exists_read_condition hread (.inl ⟨_, _, rfl⟩)
    refine ⟨_, ?_, Clause.conditionOf_checks_iff hd hselector hlocator
      (unbroken_name_of_read hoperand)⟩
    rw [hcompile, Clause.render, if_pos hcheck, hrender, Option.map_some]
    cases action <;> rfl
  · rintro message rfl
    obtain ⟨below, operand, hoperand⟩ := exists_read_condition hread (.inr ⟨_, rfl⟩)
    refine ⟨_, ?_, Clause.conditionOf_checks_iff hd hselector hlocator
      (unbroken_name_of_read hoperand)⟩
    rw [hcompile, Clause.render, if_pos hcheck, hrender, Option.map_some]

/-- A literal that opens in the message hides the "and" of the guard, which joins two checks. -/
theorem guard_exact_iff_two_checks :
    let e : Element := ⟨"#a", "page.locator('#a')"⟩
    let instruction : Text := "report 'x\" if text starts with \"a and text ends with b;'"
    let condition : Clause := .conjunction [.predicate (.compares .text .startsWith "a"),
      .predicate (.compares .text .endsWith "b;")]
    ∃ d, Framework.playwright.dialect = some d ∧ Text.Unbroken e.selector ∧
      Text.Unbroken e.locator ∧
      read 16 instruction = some (.report "x" (some condition)) ∧ condition.isCheck = true ∧
      ∃ guard : Text, compile 16 .playwright e instruction = some (d.report "x" (some guard)) ∧
        guard = "expect(await page.locator('#a').textContent()).toMatch(/^a/) && " ++
          "expect(await page.locator('#a').textContent()).toMatch(/b;$/)" := by
  intro e instruction condition
  have hd : Framework.playwright.dialect = some _ := rfl
  have hselector : Text.Unbroken e.selector := by decide
  have hlocator : Text.Unbroken e.locator := by decide
  have hread : read 16 instruction = some (.report "x" (some condition)) := by decide +kernel
  have hcheck : condition.isCheck = true := rfl
  obtain ⟨-, -, hreport⟩ := guard_exact_iff hd hselector hlocator hread hcheck
  obtain ⟨guard, hcompile, hguard⟩ := hreport "x" rfl
  have hexact := hguard.mpr (by decide)
  exact ⟨_, hd, hselector, hlocator, hread, hcheck, guard, hcompile, hexact.trans (by decide)⟩

/-- So a guard is not always exact: a value on two lines is taken for parts of two calls, and what is
asked for is another value. -/
theorem not_forall_guard_exact :
    ¬ ∀ (f : Framework) (d : Dialect) (e : Element) (ceiling : Nat) (instruction wording : Text)
        (condition : Clause) (action : Option Clause),
      f.dialect = some d → Text.Unbroken e.selector → Text.Unbroken e.locator →
      read ceiling instruction = some (.conditional condition action wording) →
      condition.isCheck = true →
      compile ceiling f e instruction = some (d.conditional (d.guard e condition.checks)
        ((action.bind (Clause.render d e)).getD wording)) := by
  intro h
  let e : Element := ⟨"#a", "#a"⟩
  let condition : Clause := .predicate (.compares .text .notContains "a\nb")
  have hread : read 16 "if text does not contain 'a\nb' then click" =
      some (.conditional condition none "click") := by decide +kernel
  have hcompile := h .selenium _ e 16 _ _ _ _ rfl (by decide) (by decide) hread rfl
  rw [compile, hread] at hcompile
  exact absurd hcompile (by decide +kernel)

end Instruction

end Cuesheet
