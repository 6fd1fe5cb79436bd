import Cuesheet.Rendering
import Cuesheet.Proofs.Rendering.Conjunction

/-!
The code of a clause, read back.

If a clause has code, its kind says what the code is made of: the codes of its parts, a comment of
alternatives, or a code shape of the dialect around a condition that has code itself.
-/

namespace Cuesheet.Clause

variable {d : Dialect} {e : Element} {code : Text}

theorem render_conjunction_eq_some {parts : List Clause}
    (h : render d e (conjunction parts) = some code) :
    parts.filterMap (render d e) ≠ [] ∧ code = Text.stack (parts.filterMap (render d e)) := by
  rw [render, renderAll_eq_filterMap] at h
  cases hcodes : parts.filterMap (render d e) with
  | nil => simp [hcodes] at h
  | cons t ts =>
    rw [hcodes] at h
    exact ⟨List.cons_ne_nil t ts, (Option.some.inj h).symm⟩

theorem render_disjunction_eq_some {parts : List Clause}
    (h : render d e (disjunction parts) = some code) :
    code = alternativesComment (parts.filterMap (render d e)) := by
  rw [render, renderAll_eq_filterMap] at h
  rcases hcodes : parts.filterMap (render d e) with _ | ⟨t, _ | ⟨u, ts⟩⟩
  · simp [hcodes] at h
  · simp [hcodes] at h
  · rw [hcodes] at h
    exact (Option.some.inj h).symm

theorem render_conditional_eq_some {condition : Clause} {action : Option Clause} {wording : Text}
    (h : render d e (conditional condition action wording) = some code) :
    condition.isCheck = true ∧ ∃ checks, condition.render d e = some checks ∧
      code = d.conditional (conditionOf checks) ((action.bind (render d e)).getD wording) := by
  rw [render] at h
  split at h
  next hcheck =>
    obtain ⟨checks, hchecks, hcode⟩ := Option.map_eq_some_iff.mp h
    refine ⟨hcheck, checks, hchecks, ?_⟩
    rw [← hcode]
    cases action <;> rfl
  next => exact absurd h (by simp)

theorem render_retryUntil_eq_some {condition : Option Clause} {wording : Text}
    (h : render d e (retryUntil condition wording) = some code) :
    (∀ c ∈ condition, c.isCheck = true) ∧
      code = d.retryUntil ((condition.bind (render d e)).map conditionOf) wording := by
  rw [render] at h
  split at h
  next hcheck =>
    refine ⟨fun c hc => ?_, ?_⟩
    · rw [Option.mem_def.mp hc] at hcheck
      exact hcheck
    · rw [← Option.some.inj h]
      cases condition <;> rfl
  next => exact absurd h (by simp)

theorem render_report_eq_some {message : Text} {condition : Option Clause}
    (h : render d e (report message condition) = some code) :
    (∀ c ∈ condition, c.isCheck = true) ∧
      code = d.report message ((condition.bind (render d e)).map conditionOf) := by
  cases condition with
  | none => exact ⟨by simp, (Option.some.inj h).symm⟩
  | some c =>
    rw [render] at h
    split at h
    next hcheck =>
      obtain ⟨checks, hchecks, hcode⟩ := Option.map_eq_some_iff.mp h
      rw [Option.bind_some, hchecks]
      exact ⟨fun c' hc' => Option.some.inj hc' ▸ hcheck, hcode.symm⟩
    next => exact absurd h (by simp)

end Cuesheet.Clause
