import Cuesheet.Json
import Cuesheet.Json.Quotation

/-!
Strings, read as they are written.

Every character stands in a string as itself, as an escape by one letter or as an escape by its code
unit, which is never half of a surrogate pair; so a string says the text it was written for
(`read_escaped`), whatever comes after its closing quote.
-/

namespace Cuesheet.Json

namespace Quotation

theorem hexValue?_digitChar : ∀ n < 16, hexValue? (Nat.digitChar n) = some n := by decide

/-- The four digits of a number name it. -/
theorem hexValue?_hexQuad {n : Nat} (h : n < 0x10000) (t : Text) :
    lex? ('\\' :: 'u' :: (hexQuad n ++ t)) =
      (lex? t).map fun (units, rest) => (.code n :: units, rest) := by
  have hvalue : ∀ k, hexValue? (Nat.digitChar (n / k % 16)) = some (n / k % 16) :=
    fun k => hexValue?_digitChar _ (Nat.mod_lt _ (by decide))
  have hlast : hexValue? (Nat.digitChar (n % 16)) = some (n % 16) :=
    hexValue?_digitChar _ (Nat.mod_lt _ (by decide))
  have hsum : ((n / 4096 % 16 * 16 + n / 256 % 16) * 16 + n / 16 % 16) * 16 + n % 16 = n := by omega
  simp only [hexQuad, List.cons_append, List.nil_append, lex?, hvalue, hlast, hsum]

/-- How a string may write a character. -/
inductive Names (c : Char) : Unit16 → Prop where
  | char : Names c (.char c)
  | code : c.toNat < 0x20 → Names c (.code c.toNat)

/-- A named letter after a backslash. -/
theorem lex?_named {e c : Char} (he : e ≠ 'u') (hc : named? e = some c) (t : Text) :
    lex? ('\\' :: e :: t) = (lex? t).map fun (units, rest) => (.char c :: units, rest) := by
  conv => lhs; unfold lex?
  split
  next h => exact absurd h (List.cons_ne_nil _ _)
  next h => exact absurd (List.cons.inj h).1 (by decide)
  next h => exact absurd (List.cons.inj (List.cons.inj h).2).1 he
  next h =>
    obtain ⟨rfl, rfl⟩ := List.cons.inj (List.cons.inj h).2
    simp only [hc]
  next hnot h =>
    obtain ⟨rfl, rfl⟩ := List.cons.inj h
    exact absurd rfl (hnot e t rfl)

/-- A character that needs no escape. -/
theorem lex?_plain {c : Char} (hquote : c ≠ '"') (hslash : c ≠ '\\') (hc : ¬ c.toNat < 0x20)
    (t : Text) : lex? (c :: t) = (lex? t).map fun (units, rest) => (.char c :: units, rest) := by
  conv => lhs; unfold lex?
  split
  next h => exact absurd h (List.cons_ne_nil _ _)
  next h => exact absurd (List.cons.inj h).1 hquote
  next h => exact absurd (List.cons.inj h).1 hslash
  next h => exact absurd (List.cons.inj h).1 hslash
  next h =>
    obtain ⟨rfl, rfl⟩ := List.cons.inj h
    rw [if_neg (by simp [hslash, hc])]

/-- A written character is read as one item that names it. -/
theorem lex?_escaped (c : Char) (t : Text) :
    ∃ u, Names c u ∧ lex? (escaped c ++ t) =
      (lex? t).map fun (units, rest) => (u :: units, rest) := by
  have hnamed : ∀ e : Char, e ≠ 'u' → named? e = some c → ∃ u, Names c u ∧
      lex? (['\\', e] ++ t) = (lex? t).map fun (units, rest) => (u :: units, rest) :=
    fun e he hc => ⟨.char c, .char, lex?_named he hc t⟩
  simp only [escaped]
  split
  next h => exact hnamed '"' (by decide) (by rw [h]; rfl)
  next hquote =>
  split
  next h => exact hnamed '\\' (by decide) (by rw [h]; rfl)
  next hslash =>
  split
  next h => exact hnamed 'n' (by decide) (by rw [h]; rfl)
  split
  next h => exact hnamed 'r' (by decide) (by rw [h]; rfl)
  split
  next h => exact hnamed 't' (by decide) (by rw [h]; rfl)
  split
  next h => exact hnamed 'b' (by decide) (by rw [show c = '\x08' from Char.toNat_inj.mp h]; rfl)
  split
  next h => exact hnamed 'f' (by decide) (by rw [show c = '\x0c' from Char.toNat_inj.mp h]; rfl)
  split
  next h => exact ⟨.code c.toNat, .code h, hexValue?_hexQuad (Nat.lt_trans h (by decide)) t⟩
  next h => exact ⟨.char c, .char, lex?_plain hquote hslash h t⟩

/-- An item says the character it names. -/
theorem Names.characters? {c : Char} {u : Unit16} (h : Names c u) (units : List Unit16) :
    Quotation.characters? (u :: units) = (Quotation.characters? units).map (c :: ·) := by
  cases h with
  | char => rw [Quotation.characters?]
  | code hc =>
    have hhigh : isHigh c.toNat = false := by simp [isHigh]; omega
    have hlow : isLow c.toNat = false := by simp [isLow]; omega
    cases units with
    | nil => simp [Quotation.characters?, hhigh, hlow]
    | cons v units => cases v <;> simp [Quotation.characters?, hhigh, hlow]

theorem exists_lex?_escaped (t rest : Text) :
    ∃ units, lex? (t.flatMap escaped ++ '"' :: rest) = some (units, rest) ∧
      characters? units = some t := by
  induction t with
  | nil => exact ⟨[], by simp [lex?], rfl⟩
  | cons c t ih =>
    obtain ⟨units, hlex, hunits⟩ := ih
    obtain ⟨u, hu, hstep⟩ := lex?_escaped c (t.flatMap escaped ++ '"' :: rest)
    refine ⟨u :: units, ?_, by rw [hu.characters?, hunits]; rfl⟩
    rw [List.flatMap_cons, List.append_assoc, hstep, hlex]
    rfl

/-- **A string says the text it was written for.** -/
theorem read_escaped (t rest : Text) :
    read (t.flatMap escaped ++ '"' :: rest) = (text t, some rest) := by
  obtain ⟨units, hlex, hunits⟩ := exists_lex?_escaped t rest
  simp only [read, hlex, hunits]

end Quotation

end Cuesheet.Json
