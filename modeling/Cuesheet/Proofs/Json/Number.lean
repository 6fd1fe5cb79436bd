import Cuesheet.Json.Number
import Cuesheet.Proofs.Text.Blank
import Cuesheet.Proofs.Text.Digit

/-!
Decimal texts, read as numbers.

The decimal text of a number is read as that number wherever it is not followed by what could belong
to a number (`lex?_ofNat`). Its value is the number again as long as that fits in 64 bits
(`value?_ofNat`).
-/

namespace Cuesheet

namespace Json

/-- A number does not go on with the text. -/
def Stops (t : Text) : Prop := ∀ c ∈ t.head?, c.isDigit = false ∧ c ≠ '.' ∧ c ≠ 'e' ∧ c ≠ 'E'

theorem stops_nil : Stops [] := by simp [Stops]

namespace Numeral

/-- A number as its decimal text writes it. -/
def ofNat (n : Nat) : Numeral where
  negative := false
  whole := Text.ofNat n
  fraction := none
  exponent := none

variable {rest : Text}

theorem digits?_ofNat (n : Nat) (h : Stops rest) :
    digits? (Text.ofNat n ++ rest) = some (Text.ofNat n, rest) := by
  have hend : ∀ c ∈ rest.head?, c.isDigit = false := fun c hc => (h c hc).1
  have htake := Text.takeWhile_append_of_head (Text.isDigit_of_mem_ofNat (n := n)) hend
  have hdrop := Text.dropWhile_append_of_head (Text.isDigit_of_mem_ofNat (n := n)) hend
  simp only [digits?, htake, hdrop, Text.ofNat_ne_nil, if_false]

theorem lexFraction?_of_stops (h : Stops rest) : lexFraction? rest = some (none, rest) := by
  cases rest with
  | nil => rfl
  | cons c rest =>
    have hpoint : c ≠ '.' := (h c rfl).2.1
    unfold lexFraction?
    split
    next he => exact absurd (List.cons.inj he).1 hpoint
    next => rfl

theorem lexExponent?_of_stops (h : Stops rest) : lexExponent? rest = some (none, rest) := by
  cases rest with
  | nil => rfl
  | cons c rest =>
    have hletter := (h c rfl).2.2
    simp [lexExponent?, hletter]

/-- A decimal text is read as its number, whatever comes after it that is no part of a number. -/
theorem lex?_ofNat (n : Nat) (h : Stops rest) :
    lex? (Text.ofNat n ++ rest) = some (ofNat n, rest) := by
  obtain ⟨c, t, ht⟩ := List.exists_cons_of_ne_nil (Text.ofNat_ne_nil n)
  have hminus : c ≠ '-' := Text.ne_of_isDigit
    (Text.isDigit_of_mem_ofNat (n := n) c (by rw [ht]; exact List.mem_cons_self ..)) rfl
  have hdigits := digits?_ofNat n h
  have hzero := Text.no_leading_zero n
  rw [ht, List.cons_append] at hdigits ⊢
  rw [ht] at hzero
  unfold lex?
  split
  next he =>
    split at he
    next hc => exact absurd (List.cons.inj hc).1 hminus
    next =>
      obtain ⟨rfl, rfl⟩ := Prod.mk.inj he
      simp only [hdigits, Option.bind_eq_bind, Option.bind_some, hzero, Bool.false_eq_true, if_false,
        lexFraction?_of_stops h, lexExponent?_of_stops h]
      rw [ofNat, ht]
      rfl

theorem value?_ofNat {n : Nat} (h : n < Nat.pow 2 64) : (ofNat n).value? = some (.integer n) := by
  simp [value?, ofNat, Text.numeral?_ofNat, h]

end Numeral

end Json

end Cuesheet
