import Cuesheet.Rendering
import Cuesheet.Proofs.Instruction.Join
import Cuesheet.Proofs.Instruction.Reading

/-!
Compiling joined instructions.

`compile_and`: instructions joined by "and" compile, one level further up, to their codes one below
the other. What is not understood drops out when the parts are read and what has no code drops out
when they are rendered, and the two together are what does not compile.
-/

namespace Cuesheet

theorem Clause.renderAll_eq_filterMap (d : Dialect) (e : Element) (parts : List Clause) :
    Clause.renderAll d e parts = parts.filterMap (Clause.render d e) := by
  induction parts with
  | nil => rfl
  | cons part parts ih =>
    rw [Clause.renderAll, List.filterMap_cons, ih]
    cases part.render d e <;> rfl

/-- A framework renders in its dialect, if it has one. -/
theorem Clause.renderFor_cases (f : Framework) (e : Element) :
    Clause.renderFor f e = (fun _ => none) ∨ ∃ d, Clause.renderFor f e = Clause.render d e := by
  cases hd : f.dialect with
  | none =>
    left
    funext c
    rw [Clause.renderFor, hd]
    rfl
  | some d =>
    right
    refine ⟨d, funext fun c => ?_⟩
    rw [Clause.renderFor, hd]
    rfl

/-- A conjunction has the codes of those parts that have one. -/
theorem Clause.renderFor_conjunction (f : Framework) (e : Element) (parts : List Clause) :
    Clause.renderFor f e (.conjunction parts) =
      if parts.filterMap (Clause.renderFor f e) = [] then none
      else some (Text.stack (parts.filterMap (Clause.renderFor f e))) := by
  rcases Clause.renderFor_cases f e with hnone | ⟨d, hsome⟩
  · simp [hnone]
  · rw [hsome, Clause.render, Clause.renderAll_eq_filterMap]
    cases parts.filterMap (Clause.render d e) with
    | nil => rfl
    | cons code codes => rfl

namespace Instruction

/-- Reading and then rendering the parts is compiling them. -/
theorem filterMap_compile (ceiling : Nat) (f : Framework) (e : Element) (parts : List Text) :
    parts.filterMap (compile ceiling f e) =
      (parts.filterMap (read ceiling)).filterMap (Clause.renderFor f e) := by
  rw [List.filterMap_filterMap]
  rfl

theorem ready_joined {word : Text} {parts : List Text} (hn : parts ≠ [])
    (h : ∀ p ∈ parts, Joinable word p)
    (hword : Text.lower (joint word) = joint word := by decide) : Ready (joined word parts) := by
  obtain ⟨p, ps, rfl⟩ := List.exists_cons_of_ne_nil hn
  exact ⟨joined_ne_nil word (h p (List.mem_cons_self ..)).ne_nil ps, trimmed_joined h,
    lower_joined hword h⟩

/-- **Instructions joined by "and" compile to the codes of those that compile**, in order, and do not
compile only if none of them does. -/
theorem compile_and (f : Framework) (e : Element) (ceiling : Nat) {parts : List Text}
    (hn : 2 ≤ parts.length) (h : ∀ p ∈ parts, Joinable "and" p) :
    (compile (ceiling + 1) f e (Text.join " and " parts) =
      if parts.filterMap (compile ceiling f e) = [] then none
      else some (Text.stack (parts.filterMap (compile ceiling f e)))) ∧
    (compile (ceiling + 1) f e (Text.join " and " parts) = none ↔
      ∀ p ∈ parts, compile ceiling f e p = none) := by
  have hne : parts ≠ [] := by
    rintro rfl
    exact absurd hn (by decide)
  have hread := (ready_joined hne h).read_of_splitAt? (splitAt?_joined joint_and hn h) ceiling
  have hcodes : compile (ceiling + 1) f e (Text.join " and " parts) =
      if parts.filterMap (compile ceiling f e) = [] then none
      else some (Text.stack (parts.filterMap (compile ceiling f e))) := by
    show (read (ceiling + 1) (joined "and" parts)).bind (Clause.renderFor f e) = _
    rw [hread, filterMap_compile]
    by_cases hclauses : parts.filterMap (read ceiling) = []
    · rw [hclauses]
      rfl
    · rw [if_neg hclauses]
      exact Clause.renderFor_conjunction f e _
  refine ⟨hcodes, ?_⟩
  rw [hcodes, ← List.filterMap_eq_nil_iff]
  split
  next hnil => exact ⟨fun _ => hnil, fun _ => rfl⟩
  next hsome => exact ⟨fun h => absurd h (by simp), fun h => absurd h hsome⟩

/-- A literal that holds the word, a phrase that is not understood, and a report. -/
theorem compile_and_three_parts :
    let parts : List Text := ["text starts with 'a and b'", "hum along", "report 'x'"]
    2 ≤ parts.length ∧ (∀ p ∈ parts, Joinable "and" p) ∧
      compile 2 .cypress ⟨"#a", "a"⟩ (Text.join " and " parts) =
        some (Text.stack ["cy.get('#a').invoke('text').should('match', /^a and b/);", "cy.log('x');"]) := by
  intro parts
  have hparts : ∀ p ∈ parts, Joinable "and" p := by decide +kernel
  have hcodes : parts.filterMap (compile 1 .cypress ⟨"#a", "a"⟩) =
      (["cy.get('#a').invoke('text').should('match', /^a and b/);", "cy.log('x');"] : List Text) := by
    decide +kernel
  refine ⟨by decide, hparts, ?_⟩
  rw [(compile_and .cypress ⟨"#a", "a"⟩ 1 (by decide) hparts).1, hcodes]
  rfl

end Instruction

end Cuesheet
