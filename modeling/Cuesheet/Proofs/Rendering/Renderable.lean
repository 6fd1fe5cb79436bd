import Mathlib.Data.List.Basic
import Cuesheet.Proofs.Clause
import Cuesheet.Rendering

/-!
Which clauses have code.

Four targets decide for themselves what they can say, and the code of a clause is missing wherever
too many of its parts have none. All the same the frameworks that say instructions at all say the same
ones: a clause has code in a dialect exactly if it is `renderable`, which mentions no dialect
(`isSome_render`). The one gate in between is the condition: it has to be a check, and checks always
have code (`renderable_of_isCheck`).
-/

namespace Cuesheet

namespace Clause

mutual

/-- Whether a clause has code in any dialect. -/
def renderable : Clause → Bool
  | predicate _ | wait .. | onFailure _ => true
  | conjunction parts => 1 ≤ renderableParts parts
  | disjunction parts => 2 ≤ renderableParts parts
  | conditional condition _ _ => condition.isCheck
  | retryUntil condition _ | report _ condition => condition.all isCheck

/-- How many of the clauses have code. -/
def renderableParts : List Clause → Nat
  | [] => 0
  | part :: parts => if part.renderable then renderableParts parts + 1 else renderableParts parts

end

/-- Checks have code. -/
theorem renderable_of_isCheck {c : Clause} (h : c.isCheck = true) : c.renderable = true := by
  obtain ⟨check, rfl⟩ | ⟨check, checks, rfl⟩ := isCheck_cases h
  · rfl
  · simp [renderable, renderableParts]

section Dialect

variable (d : Dialect) (e : Element)

/-- Under a condition that is a check, a clause has code. -/
theorem isSome_map_render {condition : Clause}
    (hcondition : (condition.render d e).isSome = condition.renderable) (build : Text → Text) :
    (if condition.isCheck then (condition.render d e).map build else none).isSome =
      condition.isCheck := by
  cases hcheck : condition.isCheck with
  | false => rfl
  | true => rw [if_pos rfl, Option.isSome_map, hcondition, renderable_of_isCheck hcheck]

mutual

/-- **A clause has code in a dialect exactly if it is renderable.** -/
theorem isSome_render : ∀ c : Clause, (c.render d e).isSome = c.renderable
  | predicate _ | wait .. | onFailure _ | report _ none | retryUntil none _ => rfl
  | conjunction parts => by
    have hlength := length_renderAll parts
    rw [render, renderable, ← hlength]
    cases renderAll d e parts with
    | nil => rfl
    | cons code codes => simp
  | disjunction parts => by
    have hlength := length_renderAll parts
    rw [render, renderable, ← hlength]
    match renderAll d e parts with
    | [] | [_] => rfl
    | _ :: _ :: _ => simp
  | conditional condition _ _ => by
    rw [render, renderable]
    exact isSome_map_render d e (isSome_render condition) _
  | retryUntil (some condition) wording => by
    rw [render, renderable]
    cases (some condition).all isCheck <;> rfl
  | report _ (some condition) => by
    rw [render, renderable]
    exact isSome_map_render d e (isSome_render condition) _

/-- As many codes as there are clauses that have one. -/
theorem length_renderAll : ∀ parts : List Clause,
    (renderAll d e parts).length = renderableParts parts
  | [] => rfl
  | part :: parts => by
    have hpart := isSome_render part
    rw [renderAll, renderableParts, ← hpart, ← length_renderAll parts]
    cases part.render d e <;> rfl

end

end Dialect

end Clause

/-- A framework that says instructions says the renderable clauses. -/
theorem Clause.isSome_renderFor {f : Framework} {d : Dialect} (hd : f.dialect = some d)
    (e : Element) (c : Clause) : (c.renderFor f e).isSome = c.renderable := by
  rw [Clause.renderFor, hd, Option.bind_some]
  exact Clause.isSome_render d e c

/-- It compiles the instructions that say one. -/
theorem Instruction.isSome_compile {f : Framework} {d : Dialect} (hd : f.dialect = some d)
    (ceiling : Nat) (e : Element) (instruction : Text) :
    (compile ceiling f e instruction).isSome = (read ceiling instruction).any Clause.renderable := by
  rw [compile]
  cases read ceiling instruction with
  | none => rfl
  | some c => exact Clause.isSome_renderFor hd e c

/-- **The three test frameworks say the same clauses, and plain scripting says none.** So of an
instruction they all have code or none has, whatever element each of them looks at. -/
theorem frameworks_say_alike :
    (∀ (c : Clause) (e : Element),
      (c.renderFor .playwright e).isSome = c.renderable ∧
      (c.renderFor .cypress e).isSome = c.renderable ∧
      (c.renderFor .selenium e).isSome = c.renderable ∧
      c.renderFor .plain e = none) ∧
    ∀ (ceiling : Nat) (instruction : Text) (e : Element),
      let understood := (Instruction.read ceiling instruction).any Clause.renderable
      (Instruction.compile ceiling .playwright e instruction).isSome = understood ∧
      (Instruction.compile ceiling .cypress e instruction).isSome = understood ∧
      (Instruction.compile ceiling .selenium e instruction).isSome = understood ∧
      Instruction.compile ceiling .plain e instruction = none := by
  refine ⟨fun c e => ?_, fun ceiling instruction e => ?_⟩
  · exact ⟨Clause.isSome_renderFor rfl e c, Clause.isSome_renderFor rfl e c,
      Clause.isSome_renderFor rfl e c, rfl⟩
  · refine ⟨Instruction.isSome_compile rfl ceiling e instruction,
      Instruction.isSome_compile rfl ceiling e instruction,
      Instruction.isSome_compile rfl ceiling e instruction, ?_⟩
    rw [Instruction.compile]
    cases Instruction.read ceiling instruction <;> rfl

end Cuesheet
