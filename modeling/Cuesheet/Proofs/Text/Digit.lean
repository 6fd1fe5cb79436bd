import Cuesheet.Text.Digit

/-!
Decimal texts.

The decimal text of a number has digits only and no leading zero, and its value is the number again
(`numeral?_ofNat`). Of other texts those of ASCII digits alone have a value, and it may have a bound to
stay below (`numeralBelow?_eq`).
-/

namespace Cuesheet.Text

theorem isDigit_of_mem_ofNat {n : Nat} : ∀ c ∈ ofNat n, c.isDigit = true :=
  fun _ hc => Nat.isDigit_of_mem_toDigits (by decide) (by decide) hc

theorem ne_of_isDigit {c d : Char} (hc : c.isDigit = true) (hd : d.isDigit = false) : c ≠ d := by
  rintro rfl
  rw [hc] at hd
  cases hd

/-- A decimal text has no character of a class without digits. -/
theorem not_mem_of_mem_ofNat {n : Nat} {c : Char} (hc : c ∈ ofNat n) {marks : List Char}
    (hmarks : ∀ mark ∈ marks, mark.isDigit = false) : c ∉ marks := fun hmark =>
  ne_of_isDigit (isDigit_of_mem_ofNat c hc) (hmarks c hmark) rfl

theorem ofNat_ne_nil (n : Nat) : ofNat n ≠ [] := Nat.toDigits_ne_nil

theorem digitValue?_of_isDigit {c : Char} (h : c.isDigit = true) :
    digitValue? c = some (c.toNat - '0'.toNat) := by
  rw [digitValue?, if_pos h]
  rfl

/-- Digits read after a number add to it in the usual way. -/
theorem numeralFrom_of_digits {t : Text} (h : ∀ c ∈ t, c.isDigit = true) (n : Nat) :
    numeralFrom n t = some (Nat.ofDigitChars 10 t n) := by
  induction t generalizing n with
  | nil => rfl
  | cons c t ih =>
    obtain ⟨hc, ht⟩ := List.forall_mem_cons.mp h
    rw [numeralFrom, digitValue?_of_isDigit hc, Option.bind_some, ih ht, Nat.ofDigitChars_cons]

/-- A text with anything else in it has no value. -/
theorem numeralFrom_eq_none {t : Text} (h : ¬ ∀ c ∈ t, c.isDigit = true) (n : Nat) :
    numeralFrom n t = none := by
  induction t generalizing n with
  | nil => exact absurd (List.forall_mem_nil _) h
  | cons c t ih =>
    rw [numeralFrom]
    by_cases hc : c.isDigit = true
    · rw [digitValue?_of_isDigit hc, Option.bind_some]
      exact ih (fun ht => h (List.forall_mem_cons.mpr ⟨hc, ht⟩)) _
    · rw [digitValue?, if_neg hc, Option.bind_none]

/-- Only ASCII digits have a value, leading zeros or not, and only one below the bound is given. -/
theorem numeralBelow?_eq {t : Text} (hne : t ≠ []) (bound : Nat) :
    numeralBelow? bound t =
      if t.all Char.isDigit = true ∧ Nat.ofDigitChars 10 t 0 < bound
      then some (Nat.ofDigitChars 10 t 0) else none := by
  rw [numeralBelow?, numeral?, if_neg hne]
  by_cases ht : t.all Char.isDigit = true
  · have hvalue := numeralFrom_of_digits (List.all_eq_true.mp ht) 0
    simp only [hvalue, Option.filter_some, decide_eq_true_eq, and_iff_right ht]
  · have hnone := numeralFrom_eq_none (fun h => ht (List.all_eq_true.mpr h)) 0
    rw [hnone, Option.filter_none, if_neg fun h => ht h.1]

theorem numeral?_ofNat (n : Nat) : numeral? (ofNat n) = some n := by
  rw [numeral?, if_neg (ofNat_ne_nil n), numeralFrom_of_digits isDigit_of_mem_ofNat, ofNat,
    Nat.ofDigitChars_ten_toDigits]

theorem ofNat_of_lt {n : Nat} (h : n < 10) : ofNat n = [Nat.digitChar n] :=
  Nat.toDigits_of_lt_base h

/-- Only zero begins with a zero. -/
theorem head?_ofNat {n : Nat} (h : 0 < n) : (ofNat n).head? ≠ some '0' := by
  induction n using Nat.strongRecOn with
  | _ n ih =>
    by_cases hlt : n < 10
    · rw [ofNat_of_lt hlt]
      exact (by decide : ∀ m < 10, 0 < m → [Nat.digitChar m].head? ≠ some '0') n hlt h
    · have hrest := ih (n / 10) (by omega) (by omega)
      obtain ⟨c, t, ht⟩ := List.exists_cons_of_ne_nil (ofNat_ne_nil (n / 10))
      have hstep : ofNat n = ofNat (n / 10) ++ [Nat.digitChar (n % 10)] :=
        Nat.toDigits_of_base_le (by decide) (by omega)
      rw [ht] at hrest
      rw [hstep, ht]
      exact hrest

/-- A decimal text is one digit long or does not begin with a zero. -/
theorem no_leading_zero (n : Nat) :
    (decide ((ofNat n).length > 1) && decide ((ofNat n).head? = some '0')) = false := by
  by_cases hn : 0 < n
  · simp [head?_ofNat hn]
  · obtain rfl : n = 0 := by omega
    decide

end Cuesheet.Text
