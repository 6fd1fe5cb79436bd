import Mathlib.Data.List.Infix
import Cuesheet.Text

/-!
The strings of a running script.

A script holds a string as code units of sixteen bits. A character below U+10000 is one unit, any other
is a pair of surrogates, and no character is a surrogate by itself (`charUnits_cases`). So units can be
cut into characters in one way only: they name their text (`units_inj`), and a text begins or ends with
another exactly if its units do (`units_prefix_iff`, `units_suffix_iff`).
-/

namespace Cuesheet.Script

def charUnits (c : Char) : List Nat :=
  if c.toNat < 0x10000 then [c.toNat]
  else [0xD800 + (c.toNat - 0x10000) / 0x400, 0xDC00 + (c.toNat - 0x10000) % 0x400]

def units (t : Text) : List Nat := t.flatMap charUnits

/-- A code unit that is half of a pair. -/
def IsSurrogate (u : Nat) : Prop := 0xD800 ≤ u ∧ u ≤ 0xDFFF

theorem not_isSurrogate_toNat (c : Char) : ¬ IsSurrogate c.toNat := by
  have hvalid : c.toNat < 0xD800 ∨ 0xDFFF < c.toNat ∧ c.toNat < 0x110000 := c.valid
  rw [IsSurrogate]
  omega

/-- A character is one unit that is no surrogate, or a high surrogate and a low one. -/
theorem charUnits_cases (c : Char) :
    (charUnits c = [c.toNat] ∧ ¬ IsSurrogate c.toNat) ∨
      ∃ high low, charUnits c = [high, low] ∧ (0xD800 ≤ high ∧ high < 0xDC00) ∧
        (0xDC00 ≤ low ∧ low ≤ 0xDFFF) ∧
        c.toNat = 0x10000 + (high - 0xD800) * 0x400 + (low - 0xDC00) := by
  have hvalid : c.toNat < 0xD800 ∨ 0xDFFF < c.toNat ∧ c.toNat < 0x110000 := c.valid
  rw [charUnits]
  split
  next => exact .inl ⟨rfl, not_isSurrogate_toNat c⟩
  next => exact .inr ⟨_, _, rfl, by omega, by omega, by omega⟩

theorem charUnits_ne_nil (c : Char) : charUnits c ≠ [] := by
  rw [charUnits]
  split <;> exact List.cons_ne_nil _ _

/-- The units at the front of a string are those of one character at most. -/
theorem charUnits_append_inj {c d : Char} {x y : List Nat}
    (h : charUnits c ++ x = charUnits d ++ y) : c = d ∧ x = y := by
  suffices hboth : c.toNat = d.toNat ∧ x = y from ⟨Char.toNat_inj.mp hboth.1, hboth.2⟩
  rcases charUnits_cases c with ⟨hc, hone⟩ | ⟨high, low, hc, hhigh, hlow, hvalue⟩ <;>
    rcases charUnits_cases d with ⟨hd, hone'⟩ | ⟨high', low', hd, hhigh', hlow', hvalue'⟩ <;>
    simp only [hc, hd, List.cons_append, List.nil_append, List.cons.injEq] at h
  · exact h
  · exact absurd (h.1 ▸ ⟨hhigh'.1, by omega⟩) hone
  · exact absurd (h.1 ▸ ⟨hhigh.1, by omega⟩) hone'
  · obtain ⟨rfl, rfl, hrest⟩ := h
    exact ⟨hvalue.trans hvalue'.symm, hrest⟩

theorem units_cons (c : Char) (t : Text) : units (c :: t) = charUnits c ++ units t := rfl

theorem units_append (t u : Text) : units (t ++ u) = units t ++ units u := List.flatMap_append ..

theorem units_eq_nil {t : Text} (h : units t = []) : t = [] := by
  cases t with
  | nil => rfl
  | cons c t => exact absurd (List.append_eq_nil_iff.mp h).1 (charUnits_ne_nil c)

/-- A text begins with another exactly if its units do. -/
theorem units_prefix_iff {v x : Text} : units v <+: units x ↔ v <+: x := by
  constructor
  · intro h
    induction v generalizing x with
    | nil => exact List.nil_prefix
    | cons c v ih =>
      obtain ⟨rest, hrest⟩ := h
      cases x with
      | nil => exact absurd (units_eq_nil (List.append_eq_nil_iff.mp hrest).1) (List.cons_ne_nil c v)
      | cons d x =>
        rw [units_cons, units_cons, List.append_assoc] at hrest
        obtain ⟨rfl, htail⟩ := charUnits_append_inj hrest
        exact List.cons_prefix_cons.mpr ⟨rfl, ih ⟨rest, htail⟩⟩
  · rintro ⟨rest, rfl⟩
    exact ⟨units rest, (units_append v rest).symm⟩

/-- **The units of a text name it.** -/
theorem units_inj {s t : Text} : units s = units t ↔ s = t := by
  refine ⟨fun h => ?_, congrArg units⟩
  have hst : s <+: t := units_prefix_iff.mp (h ▸ List.prefix_rfl)
  have hts : t <+: s := units_prefix_iff.mp (h ▸ List.prefix_rfl)
  exact hst.eq_of_length_le hts.length_le

/-- What begins with a low surrogate is the string of no text. -/
theorem units_ne_low_cons {low : Nat} (hlow : 0xDC00 ≤ low ∧ low ≤ 0xDFFF) (v : Text) (x : List Nat) :
    units v ≠ low :: x := by
  intro h
  cases v with
  | nil => exact absurd h (List.cons_ne_nil low x).symm
  | cons c v =>
    rw [units_cons] at h
    rcases charUnits_cases c with ⟨hc, hone⟩ | ⟨high, low', hc, hhigh, -, -⟩
    · rw [hc, List.singleton_append] at h
      exact hone ((List.cons.inj h).1 ▸ ⟨by omega, hlow.2⟩)
    · rw [hc, List.cons_append] at h
      have := (List.cons.inj h).1
      omega

/-- A text ends with another exactly if its units do: no text begins within a pair. -/
theorem units_suffix_iff {v x : Text} : units v <:+ units x ↔ v <:+ x := by
  constructor
  · intro h
    induction x with
    | nil => exact units_eq_nil (List.suffix_nil.mp h) ▸ List.suffix_rfl
    | cons c x ih =>
      have hlater : units v <:+ units x → v <:+ c :: x := fun h => (ih h).trans (List.suffix_cons c x)
      by_cases hwhole : units v = units (c :: x)
      · exact units_inj.mp hwhole ▸ List.suffix_rfl
      · rw [units_cons] at h hwhole
        rcases charUnits_cases c with ⟨hc, -⟩ | ⟨high, low, hc, -, hlow, -⟩
        · rw [hc, List.singleton_append] at h hwhole
          exact hlater ((List.suffix_cons_iff.mp h).resolve_left hwhole)
        · rw [hc, List.cons_append] at h hwhole
          have hwithin := (List.suffix_cons_iff.mp h).resolve_left hwhole
          exact hlater ((List.suffix_cons_iff.mp hwithin).resolve_left (units_ne_low_cons hlow v _))
  · rintro ⟨front, rfl⟩
    exact ⟨units front, (units_append front v).symm⟩

/-! ### Readings -/

/-- What was read of a literal, behind what was read before. -/
def prepend {α : Type} (front : List α) (read : Option (List α × Text)) : Option (List α × Text) :=
  read.map fun (back, rest) => (front ++ back, rest)

theorem prepend_some {α : Type} (xs ys : List α) (rest : Text) :
    prepend xs (some (ys, rest)) = some (xs ++ ys, rest) := rfl

theorem prepend_nil {α : Type} (read : Option (List α × Text)) : prepend [] read = read := by
  cases read <;> rfl

theorem prepend_prepend {α : Type} (xs ys : List α) (read : Option (List α × Text)) :
    prepend xs (prepend ys read) = prepend (xs ++ ys) read := by
  cases read with
  | none => rfl
  | some found => exact congrArg (fun zs => some (zs, found.2)) (List.append_assoc ..).symm

end Cuesheet.Script
