import Cuesheet.Text

/-!
The outcomes of programs made of parts.

A part may fail, and may keep a state, which stays as the part left it when it fails. The lemmas say
what parts one behind the other come to, and when a relation between the states before and after
carries from the parts to the whole (`Moves`).
-/

namespace Cuesheet

variable {ε σ α β : Type}

/-- Of parts that keep no state both succeed, or the whole does not. -/
theorem bind_eq_ok_iff {x : Except ε α} {f : α → Except ε β} {b : β} :
    x >>= f = .ok b ↔ ∃ a, x = .ok a ∧ f a = .ok b := by
  cases x with
  | error e => exact ⟨(nomatch ·), fun ⟨_, h, _⟩ => nomatch h⟩
  | ok a => exact ⟨fun h => ⟨a, rfl, h⟩, fun ⟨_, ha, h⟩ => Except.ok.inj ha ▸ h⟩

theorem map_eq_ok_iff {x : Except ε α} {f : α → β} {b : β} :
    f <$> x = .ok b ↔ ∃ a, x = .ok a ∧ f a = b := by
  cases x with
  | error e => exact ⟨(nomatch ·), fun ⟨_, h, _⟩ => nomatch h⟩
  | ok a => exact ⟨fun h => ⟨a, rfl, Except.ok.inj h⟩, fun ⟨_, ha, h⟩ =>
      congrArg Except.ok (Except.ok.inj ha ▸ h)⟩

theorem ok_bind (a : α) (f : α → Except ε β) : Except.ok a >>= f = f a := rfl

theorem eq_ok_of_toOption {x : Except ε α} {a : α} (h : x.toOption = some a) : x = .ok a := by
  cases x with
  | error e => cases h
  | ok b => exact congrArg Except.ok (Option.some.inj h)

/-! ### Parts with a state -/

theorem run_bind (c : ExceptT ε (StateM σ) α) (f : α → ExceptT ε (StateM σ) β) (s : σ) :
    (c >>= f).run.run s = match c.run.run s with
      | (.ok a, s') => (f a).run.run s'
      | (.error e, s') => (.error e, s') := by
  rw [ExceptT.run_bind, StateT.run_bind]
  rcases c.run.run s with ⟨_ | a, s'⟩ <;> rfl

theorem run_tryCatch (c : ExceptT ε (StateM σ) α) (f : ε → ExceptT ε (StateM σ) α) (s : σ) :
    (tryCatch c f).run.run s = match c.run.run s with
      | (.ok a, s') => (.ok a, s')
      | (.error e, s') => (f e).run.run s' := by
  rw [ExceptT.run_tryCatch, StateT.run_bind]
  rcases c.run.run s with ⟨_ | a, s'⟩ <;> rfl

theorem run_get_bind (f : σ → ExceptT ε (StateM σ) β) (s : σ) :
    (get >>= f).run.run s = (f s).run.run s := rfl

theorem run_set (s s' : σ) : (set s' : ExceptT ε (StateM σ) PUnit).run.run s = (.ok ⟨⟩, s') := rfl

theorem run_lift_bind (x : Except ε α) (f : α → ExceptT ε (StateM σ) β) (s : σ) :
    ((liftM x : ExceptT ε (StateM σ) α) >>= f).run.run s = match x with
      | .ok a => (f a).run.run s
      | .error e => (.error e, s) := by
  cases x <;> rfl

/-! ### States before and after -/

/-- Wherever the part starts, and whether it succeeds or fails, the state it leaves is related to the
one before. -/
def Moves (R : σ → σ → Prop) (c : ExceptT ε (StateM σ) α) : Prop := ∀ s, R s (c.run.run s).2

namespace Moves

variable {R : σ → σ → Prop}

theorem pure [Std.Refl R] (a : α) : Moves R (Pure.pure a : ExceptT ε (StateM σ) α) :=
  Std.Refl.refl

theorem throw [Std.Refl R] (e : ε) : Moves R (MonadExcept.throw e : ExceptT ε (StateM σ) α) :=
  Std.Refl.refl

theorem get_bind {f : σ → ExceptT ε (StateM σ) β} (hf : ∀ s, Moves R (f s)) :
    Moves R (get >>= f) := fun s => hf s s

variable [Trans R R R]

theorem bind {c : ExceptT ε (StateM σ) α} {f : α → ExceptT ε (StateM σ) β} (hc : Moves R c)
    (hf : ∀ a, Moves R (f a)) : Moves R (c >>= f) := by
  intro s
  have hfirst := hc s
  rw [run_bind]
  cases h : c.run.run s with
  | mk outcome s' =>
    rw [h] at hfirst
    cases outcome with
    | error e => exact hfirst
    | ok a => exact Trans.trans hfirst (hf a s')

theorem tryCatch {c : ExceptT ε (StateM σ) α} {f : ε → ExceptT ε (StateM σ) α} (hc : Moves R c)
    (hf : ∀ e, Moves R (f e)) : Moves R (MonadExcept.tryCatch c f) := by
  intro s
  have hfirst := hc s
  rw [run_tryCatch]
  cases h : c.run.run s with
  | mk outcome s' =>
    rw [h] at hfirst
    cases outcome with
    | error e => exact Trans.trans hfirst (hf e s')
    | ok a => exact hfirst

end Moves

end Cuesheet
