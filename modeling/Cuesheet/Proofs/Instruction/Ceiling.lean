import Mathlib.Data.List.Basic
import Cuesheet.Proofs.Clause
import Cuesheet.Proofs.Instruction.Reading

/-!
The ceiling of nesting.

A clause is read exactly if the ceiling is at least its depth: no deeper clause is read
(`depthOfPart_read_le`), and a ceiling at which the answer fits gives the same answer as any higher one
(`read_eq_of_depth_le`). Two runs are compared claim by claim: a pattern whose claim in the higher run
is not too deep makes the same claim in the lower run, whatever the operands did there.
-/

namespace Cuesheet.Instruction

open Clause (depthOfPart depthOfParts)

/-! ### No clause is deeper than the ceiling -/

theorem says_depth_le {reader : Text → Option Clause} {below : Nat}
    (hr : ∀ s, depthOfPart (reader s) ≤ below) {t : Text} {p : Pattern} {c : Clause}
    (h : Says reader t p c) : c.depth ≤ below + 1 := by
  have hparts : ∀ parts : List Text, depthOfParts (parts.filterMap reader) ≤ below := by
    intro parts
    rw [Clause.depthOfParts_le_iff]
    intro d hd
    obtain ⟨s, _, hs⟩ := List.mem_filterMap.mp hd
    exact Clause.depthOfPart_le_iff.mp (hr s) d hs
  cases h with
  | conjunction => exact Nat.succ_le_succ (hparts _)
  | disjunction => exact Nat.succ_le_succ (hparts _)
  | conditional _ hd =>
    refine Nat.succ_le_succ (Nat.max_le.mpr ⟨?_, hr _⟩)
    exact Clause.depthOfPart_le_iff.mp (hr _) _ hd
  | retryUntil => exact Nat.succ_le_succ (hr _)
  | guardedReport _ hd =>
    exact Nat.succ_le_succ (Clause.depthOfPart_le_iff.mp (hr _) _ hd)
  | check | nthChild | wait | report | onFailure => simp [Clause.depth, depthOfPart]

/-- **What is read is no deeper than the ceiling.** -/
theorem depthOfPart_read_le (ceiling : Nat) (x : Text) : depthOfPart (read ceiling x) ≤ ceiling := by
  induction ceiling generalizing x with
  | zero => simp [read, depthOfPart]
  | succ below ih =>
    rw [Clause.depthOfPart_le_iff]
    intro c hc
    obtain ⟨_, p, hb, _, hp, _⟩ := exists_claim_of_read hc
    obtain rfl := Nat.succ.inj hb
    exact says_depth_le ih (says_of_claim hp)

/-! ### Two runs -/

/-- How deep the clause of a claim is, if it gives one. -/
def Claim.depth : Claim → Nat
  | .clause c => c.depth
  | .pass | .reject => 0

/-- The readers agree on everything that the second reads no deeper than `n`. -/
def AgreeTo (n : Nat) (low high : Text → Option Clause) : Prop :=
  ∀ s, depthOfPart (high s) ≤ n → low s = high s

variable {n : Nat} {low high : Text → Option Clause}

theorem AgreeTo.none (h : AgreeTo n low high) {s : Text} (hs : high s = none) : low s = none := by
  rw [h s (by rw [hs]; exact Nat.zero_le n), hs]

theorem AgreeTo.some (h : AgreeTo n low high) {s : Text} {c : Clause} (hs : high s = some c)
    (hc : c.depth ≤ n) : low s = some c := by
  rw [h s (by rw [hs]; exact hc), hs]

theorem AgreeTo.filterMap (h : AgreeTo n low high) {parts : List Text}
    (hd : depthOfParts (parts.filterMap high) ≤ n) : parts.filterMap low = parts.filterMap high := by
  refine List.filterMap_congr fun s hs => h s ?_
  rw [Clause.depthOfPart_le_iff]
  intro c hc
  exact Clause.depthOfParts_le_iff.mp hd c (List.mem_filterMap.mpr ⟨s, hs, hc⟩)

/-- A part that the higher run does not understand drops out of the lower run too. -/
theorem AgreeTo.length_filterMap_le (h : AgreeTo n low high) (parts : List Text) :
    (parts.filterMap low).length ≤ (parts.filterMap high).length := by
  induction parts with
  | nil => exact Nat.le_refl 0
  | cons s parts ih =>
    rw [List.filterMap_cons, List.filterMap_cons]
    cases hs : high s with
    | none => simpa [h.none hs] using ih
    | some c =>
      cases low s with
      | none => exact Nat.le_succ_of_le ih
      | some d => exact Nat.succ_le_succ ih

/-- A claim that is not too deep in the higher run is the claim in the lower run. -/
theorem claim_eq_of_agree (h : AgreeTo n low high) (p : Pattern) (t : Text)
    (hd : (p.claim high t).depth ≤ n + 1) : p.claim low t = p.claim high t := by
  cases p with
  | conjunction =>
    simp only [Pattern.claim] at hd ⊢
    cases hs : splitAt? "and" t with
    | none => rfl
    | some parts =>
      have hparts : parts.filterMap low = parts.filterMap high := by
        apply h.filterMap
        simp only [hs] at hd
        cases hcs : parts.filterMap high with
        | nil => exact Nat.zero_le n
        | cons c cs =>
          rw [hcs] at hd
          exact Nat.le_of_succ_le_succ hd
      simp only [hparts]
  | disjunction =>
    rw [claim_disjunction] at hd
    rw [claim_disjunction, claim_disjunction]
    cases hs : splitAt? "or" t with
    | none => rfl
    | some parts =>
      simp only [hs, Option.elim_some] at hd ⊢
      by_cases htwo : 2 ≤ (parts.filterMap high).length
      · rw [if_pos htwo] at hd ⊢
        have hparts := h.filterMap (Nat.le_of_succ_le_succ hd)
        rw [hparts, if_pos htwo]
      · -- the lower run may understand another alternative, but not more of them
        have hle := h.length_filterMap_le parts
        rw [if_neg htwo, if_neg (by omega)]
  | conditional =>
    simp only [Pattern.claim] at hd ⊢
    cases hs : conditional? t with
    | none => rfl
    | some pieces =>
      obtain ⟨condition, action⟩ := pieces
      simp only [hs] at hd ⊢
      cases hc : high condition with
      | none => simp only [h.none hc]
      | some c =>
        simp only [hc, Claim.depth, Clause.depth] at hd
        have hmax := Nat.max_le.mp (Nat.le_of_succ_le_succ hd)
        simp only [h.some hc hmax.1, h _ hmax.2]
  | retryUntil =>
    simp only [Pattern.claim] at hd ⊢
    cases hs : retryUntil? t with
    | none => rfl
    | some condition =>
      simp only [hs, Claim.depth, Clause.depth] at hd ⊢
      rw [h _ (Nat.le_of_succ_le_succ hd)]
  | report =>
    simp only [Pattern.claim] at hd ⊢
    cases hs : report? t with
    | none => rfl
    | some pieces =>
      obtain ⟨message, condition⟩ := pieces
      simp only [hs] at hd ⊢
      cases condition with
      | none => rfl
      | some operand =>
        simp only [optionalOperand] at hd ⊢
        cases hc : high operand with
        | none => simp only [h.none hc]
        | some c =>
          simp only [hc, Claim.depth, Clause.depth, depthOfPart] at hd
          simp only [h.some hc (Nat.le_of_succ_le_succ hd)]
  | check | nthChild | wait | onFailure => rfl

theorem firstClaim_eq_of_agree (h : AgreeTo n low high) (t : Text) (patterns : List Pattern)
    (hd : depthOfPart (firstClaim high t patterns) ≤ n + 1) :
    firstClaim low t patterns = firstClaim high t patterns := by
  induction patterns with
  | nil => rfl
  | cons p patterns ih =>
    have hclaim : p.claim low t = p.claim high t := by
      apply claim_eq_of_agree h
      rw [firstClaim] at hd
      cases hp : p.claim high t with
      | clause c => simpa [hp, Claim.depth, depthOfPart] using hd
      | pass | reject => exact Nat.zero_le _
    rw [firstClaim] at hd ⊢
    rw [firstClaim, hclaim]
    cases hp : p.claim high t with
    | pass =>
      rw [hp] at hd
      exact ih hd
    | clause | reject => rfl

/-- **Where the answer fits under the lower ceiling, both ceilings give it.** -/
theorem read_eq_of_depth_le {ceiling higher : Nat} (h : ceiling ≤ higher) (x : Text)
    (hd : depthOfPart (read higher x) ≤ ceiling) : read ceiling x = read higher x := by
  induction ceiling generalizing higher x with
  | zero =>
    cases hx : read higher x with
    | none => rfl
    | some c =>
      rw [hx] at hd
      exact absurd (c.one_le_depth.trans hd) (by decide)
  | succ below ih =>
    obtain ⟨higher, rfl⟩ := Nat.exists_eq_succ_of_ne_zero (Nat.ne_of_gt (Nat.lt_of_lt_of_le
      (Nat.succ_pos below) h))
    have hagree : AgreeTo below (read below) (read higher) :=
      fun s hs => ih (Nat.le_of_succ_le_succ h) s hs
    rw [read_succ] at hd ⊢
    rw [Nat.succ_eq_add_one, read_succ]
    split
    · rfl
    next hne =>
      rw [if_neg hne] at hd
      exact firstClaim_eq_of_agree hagree _ _ hd

/-- **The ceiling takes effect exactly at the depth of the clause.** -/
theorem read_ceiling {ceiling higher : Nat} (h : ceiling ≤ higher) (x : Text) :
    (∀ c, read ceiling x = some c → 1 ≤ c.depth ∧ c.depth ≤ ceiling) ∧
      (read higher x = none → read ceiling x = none) ∧
      ∀ c, read higher x = some c → c.depth ≤ ceiling → read ceiling x = some c := by
  refine ⟨fun c hc => ⟨c.one_le_depth, ?_⟩, fun hnone => ?_, fun c hc hd => ?_⟩
  · exact Clause.depthOfPart_le_iff.mp (depthOfPart_read_le ceiling x) c hc
  · rw [read_eq_of_depth_le h x (by rw [hnone]; exact Nat.zero_le _), hnone]
  · rw [read_eq_of_depth_le h x (by rw [hc]; exact hd), hc]

/-- A guarded report nests two levels: a ceiling of two reads it as one of sixteen does. -/
theorem read_ceiling_two :
    2 ≤ defaultCeiling ∧ read 2 "report 'a' if text ends with 'x'" =
      some (.report "a" (some (.predicate (.compares .text .endsWith "x")))) :=
  have hread : read defaultCeiling "report 'a' if text ends with 'x'" =
      some (.report "a" (some (.predicate (.compares .text .endsWith "x")))) := by
    decide +kernel
  ⟨by decide, (read_ceiling (by decide) _).2.2 _ hread (by decide)⟩

end Cuesheet.Instruction
