import Mathlib.Data.List.Forall2
import Cuesheet.Clause

/-!
Clauses as data.

Clauses are compared part by part (`same_iff`), so what an instruction says can be tested for
equality. Every clause has a depth of at least one, and a depth is bounded exactly if the depths of
the parts are. The clauses that can stand as a condition are told by their form (`isCheck_cases`), and
their single checks are counted out (`checks`). What is left of a clause when every text is taken out
of it that it only keeps is its `shape`.
-/

namespace Cuesheet

/-- The value that a check compares with; empty where it compares nothing. -/
def Predicate.value : Predicate → Text
  | .compares _ _ value => value
  | .nthChild _ => []

/-- The name of the attribute that a check reads; empty where it reads none. -/
def Predicate.name : Predicate → Text
  | .compares (.attribute name) _ _ => name
  | _ => []

namespace Clause

/-! ### Equality -/

mutual

/-- Whether two clauses are built alike from equal pieces. -/
def same : Clause → Clause → Bool
  | predicate p, predicate q => p = q
  | conjunction ps, conjunction qs => sameParts ps qs
  | disjunction ps, disjunction qs => sameParts ps qs
  | conditional c a w, conditional d b v => same c d && samePart a b && decide (w = v)
  | wait n s, wait m t => n = m && decide (s = t)
  | retryUntil c w, retryUntil d v => samePart c d && decide (w = v)
  | report m c, report n d => decide (m = n) && samePart c d
  | onFailure g, onFailure h => g = h
  | _, _ => false

def sameParts : List Clause → List Clause → Bool
  | [], [] => true
  | p :: ps, q :: qs => same p q && sameParts ps qs
  | _, _ => false

def samePart : Option Clause → Option Clause → Bool
  | none, none => true
  | some p, some q => same p q
  | _, _ => false

end

mutual

theorem same_iff (c d : Clause) : same c d = true ↔ c = d := by
  cases c with
  | predicate p => cases d <;> simp [same]
  | conjunction ps => cases d <;> simp [same, sameParts_iff ps]
  | disjunction ps => cases d <;> simp [same, sameParts_iff ps]
  | conditional c a w => cases d <;> simp [same, same_iff c, samePart_iff a, and_assoc]
  | wait n s => cases d <;> simp [same]
  | retryUntil c w => cases d <;> simp [same, samePart_iff c]
  | report m c => cases d <;> simp [same, samePart_iff c]
  | onFailure g => cases d <;> simp [same]

theorem sameParts_iff (ps qs : List Clause) : sameParts ps qs = true ↔ ps = qs := by
  cases ps with
  | nil => cases qs <;> simp [sameParts]
  | cons p ps => cases qs <;> simp [sameParts, same_iff p, sameParts_iff ps]

theorem samePart_iff (p q : Option Clause) : samePart p q = true ↔ p = q := by
  cases p with
  | none => cases q <;> simp [samePart]
  | some p => cases q <;> simp [samePart, same_iff p]

end

instance : DecidableEq Clause := fun c d => decidable_of_iff _ (same_iff c d)

/-! ### Depth -/

theorem one_le_depth (c : Clause) : 1 ≤ c.depth := by
  cases c <;> simp [depth]

theorem depthOfParts_le_iff {parts : List Clause} {n : Nat} :
    depthOfParts parts ≤ n ↔ ∀ c ∈ parts, c.depth ≤ n := by
  induction parts with
  | nil => simp [depthOfParts]
  | cons part parts ih => rw [depthOfParts, Nat.max_le, ih, List.forall_mem_cons]

theorem depthOfPart_le_iff {part : Option Clause} {n : Nat} :
    depthOfPart part ≤ n ↔ ∀ c ∈ part, c.depth ≤ n := by
  cases part <;> simp [depthOfPart]

/-! ### Checks -/

theorem exists_predicates {parts : List Clause} (h : ∀ c ∈ parts, c.isPredicate = true) :
    ∃ checks : List Predicate, parts = checks.map predicate := by
  induction parts with
  | nil => exact ⟨[], rfl⟩
  | cons part parts ih =>
    obtain ⟨hpart, hparts⟩ := List.forall_mem_cons.mp h
    obtain ⟨checks, rfl⟩ := ih hparts
    cases part with
    | predicate check => exact ⟨check :: checks, rfl⟩
    | _ => exact absurd hpart (by simp [isPredicate])

/-- A clause that can stand as a condition is a single check or a conjunction of single checks. -/
theorem isCheck_cases {c : Clause} (h : c.isCheck = true) :
    (∃ check, c = predicate check) ∨
      ∃ check checks, c = conjunction ((check :: checks).map predicate) := by
  cases c with
  | predicate check => exact .inl ⟨check, rfl⟩
  | conjunction parts =>
    simp only [isCheck, Bool.and_eq_true, List.all_eq_true] at h
    obtain ⟨checks, rfl⟩ := exists_predicates h.2
    cases checks with
    | nil => exact absurd h.1 (by decide)
    | cons check checks => exact .inr ⟨check, checks, rfl⟩
  | _ => exact absurd h (by simp [isCheck])

/-- The single check that a clause is, if it is one. -/
def check? : Clause → Option Predicate
  | predicate check => some check
  | _ => none

/-- The single checks of a clause that can stand as a condition. -/
def checks : Clause → List Predicate
  | predicate check => [check]
  | conjunction parts => parts.filterMap check?
  | _ => []

theorem checks_conjunction (cs : List Predicate) : (conjunction (cs.map predicate)).checks = cs := by
  induction cs with
  | nil => rfl
  | cons check cs ih => exact congrArg (check :: ·) ih

/-- The checks of a clause are itself or parts of it. -/
theorem mem_checks {c : Clause} {check : Predicate} (h : check ∈ c.checks) :
    c = predicate check ∨ ∃ parts, c = conjunction parts ∧ predicate check ∈ parts := by
  cases c with
  | predicate p => exact .inl (congrArg predicate (List.mem_singleton.mp h).symm)
  | conjunction parts =>
    obtain ⟨part, hpart, hcheck⟩ := List.mem_filterMap.mp h
    cases part with
    | predicate p =>
      obtain rfl := Option.some.inj hcheck
      exact .inr ⟨parts, rfl, hpart⟩
    | _ => exact absurd hcheck (by simp [check?])
  | _ => exact absurd h List.not_mem_nil

/-! ### Shape -/

mutual

/-- The clause without the texts that it keeps: values, wordings, messages and handlers. -/
def shape : Clause → Clause
  | predicate (.compares subject comparison _) => predicate (.compares subject comparison [])
  | predicate (.nthChild n) => predicate (.nthChild n)
  | conjunction parts => conjunction (shapeOfParts parts)
  | disjunction parts => disjunction (shapeOfParts parts)
  | conditional condition action _ => conditional condition.shape (shapeOfPart action) []
  | wait milliseconds _ => wait milliseconds []
  | retryUntil condition _ => retryUntil (shapeOfPart condition) []
  | report _ condition => report [] (shapeOfPart condition)
  | onFailure _ => onFailure []

def shapeOfParts : List Clause → List Clause
  | [] => []
  | part :: parts => part.shape :: shapeOfParts parts

def shapeOfPart : Option Clause → Option Clause
  | none => none
  | some part => some part.shape

end

/-- The clauses are the same up to the texts that they keep. -/
def Alike (c d : Clause) : Prop := c.shape = d.shape

theorem alike_refl (c : Clause) : Alike c c := rfl

variable {condition condition' : Clause} {part part' : Option Clause} {parts parts' : List Clause}

theorem shapeOfParts_eq (h : List.Forall₂ Alike parts parts') :
    shapeOfParts parts = shapeOfParts parts' := by
  induction h with
  | nil => rfl
  | cons hpart _ ih => rw [shapeOfParts, shapeOfParts, hpart, ih]

theorem shapeOfPart_eq (h : Option.Rel Alike part part') : shapeOfPart part = shapeOfPart part' := by
  cases h with
  | none => rfl
  | some hpart => rw [shapeOfPart, shapeOfPart, hpart]

theorem map_shape_eq (h : Option.Rel Alike part part') : part.map shape = part'.map shape := by
  cases h with
  | none => rfl
  | some hpart => exact congrArg some hpart

theorem alike_compares {subject subject' : Subject} (h : subject = subject') (comparison : Comparison)
    (value value' : Text) : Alike (predicate (.compares subject comparison value))
      (predicate (.compares subject' comparison value')) := by
  rw [Alike, shape, shape, h]

theorem alike_conjunction (h : List.Forall₂ Alike parts parts') :
    Alike (conjunction parts) (conjunction parts') := by
  rw [Alike, shape, shape, shapeOfParts_eq h]

theorem alike_disjunction (h : List.Forall₂ Alike parts parts') :
    Alike (disjunction parts) (disjunction parts') := by
  rw [Alike, shape, shape, shapeOfParts_eq h]

theorem alike_conditional (hcondition : Alike condition condition')
    (haction : Option.Rel Alike part part') (wording wording' : Text) :
    Alike (conditional condition part wording) (conditional condition' part' wording') := by
  rw [Alike, shape, shape, hcondition, shapeOfPart_eq haction]

theorem alike_retryUntil (h : Option.Rel Alike part part') (wording wording' : Text) :
    Alike (retryUntil part wording) (retryUntil part' wording') := by
  rw [Alike, shape, shape, shapeOfPart_eq h]

theorem alike_report (h : Option.Rel Alike part part') (message message' : Text) :
    Alike (report message part) (report message' part') := by
  rw [Alike, shape, shape, shapeOfPart_eq h]

end Clause

end Cuesheet
