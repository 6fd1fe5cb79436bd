/-!
Non-negative numbers of double precision, exactly.

A `Binary64` is a significand below `2 ^ 53` times a power of two from `-1074` on. Rounding goes to
the nearest such number and, halfway, to the one with the even significand; products and quotients
are the rounded exact ones.
-/

namespace Cuesheet.Decimal

/-- The number `significand * 2 ^ exponent`. -/
structure Binary64 where
  significand : Nat
  exponent : Int
  deriving DecidableEq, Repr, Inhabited

namespace Binary64

/-- The least exponent, which numbers near zero have. -/
def minExponent : Int := -1074

def maxExponent : Int := 971

def zero : Binary64 := ⟨0, minExponent⟩

/-- A ratio divided by `2 ^ e`, as a ratio. -/
def scaled (num den : Nat) (e : Int) : Nat × Nat :=
  if 0 ≤ e then (num, den * Nat.pow 2 e.toNat) else (num * Nat.pow 2 (-e).toNat, den)

/-- The quotient of a ratio rounded to the nearest whole number, halves to the even one. -/
def roundHalfEven (num den : Nat) : Nat :=
  let q := num / den
  let twice := 2 * (num % den)
  if twice > den || (twice = den && q % 2 = 1) then q + 1 else q

/-- The number nearest to a ratio of whole numbers; none where it is too large. -/
def ofRatio (num den : Nat) : Option Binary64 :=
  if num = 0 then some zero
  else
    let low : Int := max ((num.log2 : Int) - den.log2 - 53) minExponent
    let (n, d) := scaled num den low
    let e := if n / d ≥ Nat.pow 2 53 then low + 1 else low
    let (n, d) := scaled num den e
    let m := roundHalfEven n d
    let (m, e) := if m = Nat.pow 2 53 then (Nat.pow 2 52, e + 1) else (m, e)
    if e > maxExponent then none else some ⟨m, e⟩

def num (a : Binary64) : Nat := a.significand * Nat.pow 2 a.exponent.toNat

def den (a : Binary64) : Nat := Nat.pow 2 (-a.exponent).toNat

def mul (a b : Binary64) : Option Binary64 := ofRatio (a.num * b.num) (a.den * b.den)

def div (a b : Binary64) : Option Binary64 := ofRatio (a.num * b.den) (a.den * b.num)

/-- The number nearest to a power of ten; none where it is too large. -/
def tenPow (k : Nat) : Option Binary64 := ofRatio (Nat.pow 10 k) 1

end Binary64

end Cuesheet.Decimal
