import Cuesheet.CommandLine.Option
import Cuesheet.Proofs.Outcome

/-!
What options make of a command.

A property of the command under construction that every option keeps, and every word, holds of the
command that is read (`Grammar.Respects.read`). An option that still waits for its value acts later, so
between two arguments the property is asked of the option too (`Intake.Holds`).
-/

namespace Cuesheet.CommandLine

variable {σ : Type}

/-- What the option does keeps a property of the command. -/
def Opt.Respects (P : σ → Prop) (o : Opt σ) : Prop :=
  ∀ s t s', P s → o.apply s t = .ok s' → P s'

/-- Whatever can stand among the arguments keeps a property of the command. -/
structure Grammar.Respects (P : σ → Prop) (g : Grammar σ) : Prop where
  options : ∀ o ∈ g.options, o.Respects P
  words : ∀ use ∈ g.word, ∀ s t, P s → P (use s t)

namespace Intake

variable {P : σ → Prop} {g : Grammar σ} {s s' : Intake σ}

/-- The command has a property, and the option that waits keeps it. -/
structure Holds (P : σ → Prop) (s : Intake σ) : Prop where
  command : P s.command
  pending : ∀ x ∈ s.pending, x.1.Respects P

theorem Holds.settle (h : Holds P s) {c : σ} (hc : s.settle = .ok c) : P c := by
  rw [Intake.settle] at hc
  split at hc
  · cases hc
    exact h.command
  · cases hc
  · rename_i o value hp
    exact h.pending _ hp _ _ _ h.command hc

theorem Holds.option (h : Holds P s) {o : Opt σ} (ho : o.Respects P) {attached : Option Text}
    (hs : s.option o attached = .ok s') : Holds P s' := by
  rw [Intake.option] at hs
  obtain ⟨c, hc, hs⟩ := bind_eq_ok_iff.mp hs
  have hcommand := h.settle hc
  split at hs
  · cases hs
    exact ⟨hcommand, fun x hx => by cases hx; exact ho⟩
  · obtain ⟨c', hc', hs⟩ := bind_eq_ok_iff.mp hs
    cases hs
    exact ⟨ho _ _ _ hcommand hc', nofun⟩
  · obtain ⟨c', hc', hs⟩ := bind_eq_ok_iff.mp hs
    cases hs
    exact ⟨ho _ _ _ hcommand hc', nofun⟩

theorem Holds.letters (hg : g.Respects P) {t : Text} (h : Holds P s)
    (hs : letters g s t = .ok s') : Holds P s' := by
  induction t generalizing s with
  | nil =>
    cases hs
    exact h
  | cons c t ih =>
    rw [Intake.letters] at hs
    split at hs
    · cases hs
    · rename_i o ho
      have hrespects := hg.options o (List.mem_of_find?_eq_some ho)
      split at hs
      · split at hs <;> exact h.option hrespects hs
      · obtain ⟨next, hnext, hs⟩ := bind_eq_ok_iff.mp hs
        exact ih (h.option hrespects hnext) hs

theorem Holds.name (hg : g.Respects P) {t : Text} (h : Holds P s) (hs : s.name g t = .ok s') :
    Holds P s' := by
  cases ho : g.options.find? (·.long = t.takeWhile (· ≠ '=')) with
  | none =>
    simp only [Intake.name, ho] at hs
    cases hs
  | some o =>
    obtain ⟨attached, hname⟩ : ∃ attached, s.name g t =
        if attached.isSome && !o.takesValue then .error .unwantedValue
        else s.option o attached := ⟨_, by simp only [Intake.name, ho]; rfl⟩
    rw [hname] at hs
    split at hs
    · cases hs
    · exact h.option (hg.options o (List.mem_of_find?_eq_some ho)) hs

theorem Holds.word (hg : g.Respects P) {t : Text} (h : Holds P s) (hs : s.word g t = .ok s') :
    Holds P s' := by
  rw [Intake.word] at hs
  split at hs
  · cases hs
  · rename_i use huse
    obtain ⟨c, hc, hs⟩ := bind_eq_ok_iff.mp hs
    cases hs
    exact ⟨hg.words use huse c t (h.settle hc), nofun⟩

/-- One argument keeps what the grammar respects. -/
theorem Holds.argument (hg : g.Respects P) {t : Text} (h : Holds P s)
    (hs : s.argument g t = .ok s') : Holds P s' := by
  unfold Intake.argument at hs
  split at hs
  · exact h.word hg hs
  · split at hs
    · cases hs
      exact ⟨h.command, h.pending⟩
    · exact h.name hg hs
    · exact h.letters hg hs
    · split at hs
      · rename_i o hp
        cases hs
        exact ⟨h.command, fun x hx => by cases hx; exact h.pending (o, none) hp⟩
      · exact h.word hg hs

end Intake

/-- **A property of the command that every option and every word keeps holds of the command read.** -/
theorem Grammar.Respects.read {P : σ → Prop} {g : Grammar σ} (hg : g.Respects P) {start c : σ}
    (hstart : P start) {arguments : List Text} (h : g.read start arguments = .ok c) : P c := by
  obtain ⟨s, hs, hc⟩ := bind_eq_ok_iff.mp h
  suffices hall : ∀ s₀ : Intake σ, s₀.Holds P →
      arguments.foldlM (Intake.argument g) s₀ = .ok s → s.Holds P from
    (hall _ ⟨hstart, by simp⟩ hs).settle hc
  clear hs h
  induction arguments with
  | nil =>
    intro s₀ h₀ hs
    cases hs
    exact h₀
  | cons t arguments ih =>
    intro s₀ h₀ hs
    rw [List.foldlM_cons] at hs
    obtain ⟨s₁, hs₁, hs⟩ := bind_eq_ok_iff.mp hs
    exact ih s₁ (h₀.argument hg hs₁) hs

end Cuesheet.CommandLine
