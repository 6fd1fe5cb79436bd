import Cuesheet.Decimal.Binary64
import Cuesheet.Text.Digit

/-!
The shortest decimal text of a number of double precision.

Of the decimals that are nearer to the number than to any other number of double precision, the
shortest has the fewest digits and, among those, lies nearest. It is written positionally where the
first digit stands from five places after the point up to sixteen before it, with at least one digit
on either side of the point; outside that, with an exponent that always has a sign.
-/

namespace Cuesheet.Decimal

/-- A decimal number: `digits * 10 ^ exponent`. -/
structure Shortest where
  digits : Nat
  exponent : Int
  deriving DecidableEq, Repr, Inhabited

/-- The ends of the interval of ratios that round to a number, and the number itself, all over the
common denominator that comes last. -/
structure Rounding where
  low : Nat
  value : Nat
  high : Nat
  den : Nat
  /-- Whether the ends round to the number too. -/
  closed : Bool

/-- The interval of ratios that round to a number. -/
def Rounding.of (a : Binary64) : Rounding :=
  let unit := Nat.pow 2 a.exponent.toNat
  let below := if a.significand = Nat.pow 2 52 && a.exponent > Binary64.minExponent then 1 else 2
  { low := (4 * a.significand - below) * unit
    value := 4 * a.significand * unit
    high := (4 * a.significand + 2) * unit
    den := 4 * a.den
    closed := a.significand % 2 = 0 }

def Rounding.contains (r : Rounding) (num den : Nat) : Bool :=
  let n := num * r.den
  let low := r.low * den
  let high := r.high * den
  if r.closed then low ≤ n && n ≤ high else low < n && n < high

/-- A decimal as a ratio. -/
def Shortest.ratio (s : Shortest) : Nat × Nat :=
  (s.digits * Nat.pow 10 s.exponent.toNat, Nat.pow 10 (-s.exponent).toNat)

/-- The place of the first digit of a ratio: zero for those from one to below ten. -/
def leadingPlace (num den : Nat) : Int :=
  if num ≥ den then ((Nat.toDigits 10 (num / den)).length : Int) - 1
  else
    match (List.range 400).find? fun j => num * Nat.pow 10 j ≥ den with
    | some j => -(j : Int)
    | none => 0

/-- The nearest of the two neighbours of a number among the multiples of `10 ^ place`, if it rounds to
the number. -/
def Rounding.onGrid? (r : Rounding) (place : Int) : Option Shortest :=
  let (n, d) :=
    if 0 ≤ place then (r.value, r.den * Nat.pow 10 place.toNat)
    else (r.value * Nat.pow 10 (-place).toNat, r.den)
  let candidate (digits : Nat) : Option Shortest :=
    let s : Shortest := ⟨digits, place⟩
    if r.contains s.ratio.1 s.ratio.2 then some s else none
  let nearest := Binary64.roundHalfEven n d
  let other := if nearest = n / d then n / d + 1 else n / d
  (candidate nearest).orElse fun _ => candidate other

/-- The decimal without the zeros at its end. -/
def Shortest.stripped (s : Shortest) : Shortest :=
  let zeros := ((Nat.toDigits 10 s.digits).reverse.takeWhile (· = '0')).length
  if s.digits = 0 then ⟨0, 0⟩ else ⟨s.digits / Nat.pow 10 zeros, s.exponent + zeros⟩

/-- The shortest decimal of a number. -/
def Shortest.of (a : Binary64) : Shortest :=
  if a.significand = 0 then ⟨0, 0⟩
  else
    let r := Rounding.of a
    let lead := leadingPlace r.value r.den
    match (List.range 17).findSome? fun (n : Nat) => r.onGrid? (lead - n) with
    | some s => s.stripped
    | none => ⟨a.num / a.den, 0⟩

/-- An exponent with its sign. -/
def exponentText (e : Int) : Text := (if e < 0 then '-' else '+') :: Text.ofNat e.natAbs

def Shortest.text (s : Shortest) : Text :=
  let digits := Text.ofNat s.digits
  let count := digits.length
  let place : Int := s.exponent + count - 1
  if -5 ≤ place && place < 16 then
    if place < 0 then "0." ++ List.replicate (-place - 1).toNat '0' ++ digits
    else if s.exponent ≥ 0 then digits ++ List.replicate s.exponent.toNat '0' ++ ".0"
    else
      let whole := (place + 1).toNat
      digits.take whole ++ "." ++ digits.drop whole
  else
    let mantissa := match digits with
      | [d] => [d]
      | d :: ds => d :: '.' :: ds
      | [] => []
    mantissa ++ "e" ++ exponentText place

end Cuesheet.Decimal
