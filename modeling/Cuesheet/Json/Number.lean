import Cuesheet.Decimal.Shortest

/-!
Numbers in a JSON text.

`Numeral.lex?` reads the parts of a number; `Numeral.value?` says which number it is. A whole number
of 64 bits is itself. Any other is a number of double precision: nineteen or twenty leading digits
count, the rest only shift the point, and the whole is multiplied or divided by a power of ten, each
step rounded. A number too large for double precision has no value.
-/

namespace Cuesheet.Json

structure Numeral where
  negative : Bool
  /-- The digits before the point. -/
  whole : Text
  /-- The digits after the point, if it has one. -/
  fraction : Option Text
  /-- Whether the exponent is negative, and its digits, if it has one. -/
  exponent : Option (Bool × Text)
  deriving DecidableEq, Repr, Inhabited

inductive Number where
  /-- A whole number of 64 bits. -/
  | integer (n : Int)
  /-- A number of double precision, as a message shows it. -/
  | floating (shown : Text)
  deriving DecidableEq, Repr, Inhabited

namespace Numeral

/-- The digits at the front of a text, and the rest; none without a digit. -/
def digits? (t : Text) : Option (Text × Text) :=
  let digits := t.takeWhile Char.isDigit
  if digits = [] then none else some (digits, t.dropWhile Char.isDigit)

/-- The fraction at the front of a text, if there is one; none where a point has no digit after it. -/
def lexFraction? (t : Text) : Option (Option Text × Text) :=
  match t with
  | '.' :: t => (digits? t).map fun (digits, rest) => (some digits, rest)
  | _ => some (none, t)

/-- The exponent at the front of a text, if there is one; none where it has no digit. -/
def lexExponent? (t : Text) : Option (Option (Bool × Text) × Text) :=
  let read (negative : Bool) (t : Text) : Option (Option (Bool × Text) × Text) :=
    (digits? t).map fun (digits, rest) => (some (negative, digits), rest)
  match t with
  | c :: t =>
    if c = 'e' || c = 'E' then
      match t with
      | '+' :: t => read false t
      | '-' :: t => read true t
      | t => read false t
    else some (none, c :: t)
  | [] => some (none, [])

/-- The number at the front of a text, and the rest. A leading zero stands alone before the point. -/
def lex? (t : Text) : Option (Numeral × Text) := do
  let (negative, t) := match t with
    | '-' :: t => (true, t)
    | t => (false, t)
  let (whole, t) ← digits? t
  if whole.length > 1 && whole.head? = some '0' then none
  else
    let (fraction, t) ← lexFraction? t
    let (exponent, t) ← lexExponent? t
    return ({ negative, whole, fraction, exponent }, t)

/-- A significand, with the number of digits that came after it. -/
structure Significand where
  value : Nat
  /-- Digits that count before the point but are not in the value. -/
  dropped : Nat := 0
  deriving Repr

/-- A significand with one more digit, as long as it fits in 64 bits. -/
def Significand.push (s : Significand) (d : Nat) : Significand :=
  if s.dropped > 0 || 10 * s.value + d ≥ Nat.pow 2 64 then { s with dropped := s.dropped + 1 }
  else { s with value := 10 * s.value + d }

def digit (c : Char) : Nat := c.toNat - 0x30

/-- A significand with the number of its digits that stand after the point, and one more such digit.
Once a digit does not fit, no later one counts. -/
def Significand.pushFraction (s : Significand × Nat) (d : Nat) : Significand × Nat :=
  let pushed := s.1.push d
  if pushed.dropped > 0 then ({ s.1 with dropped := pushed.dropped }, s.2) else (pushed, s.2 + 1)

/-- The significand of a number and the power of ten that goes with it, its exponent apart. -/
def scaledSignificand (n : Numeral) : Nat × Int :=
  let start : Significand := { value := 0 }
  let whole := (n.whole.map digit).foldl Significand.push start
  let full := ((n.fraction.getD []).map digit).foldl Significand.pushFraction
    ({ whole with dropped := 0 }, 0)
  (full.1.value, (whole.dropped : Int) - full.2)

/-- A significand times a power of ten in double precision; none where it is too large. -/
def scale (significand : Nat) (power : Int) : Option Decimal.Binary64 := do
  let f ← Decimal.Binary64.ofRatio significand 1
  if f.significand = 0 then return f
  else if 0 ≤ power then
    if power > 308 then none else f.mul (← Decimal.Binary64.tenPow power.toNat)
  else
    let p := (-power).toNat
    let big ← Decimal.Binary64.tenPow 308
    -- A greater power is divided off in steps; two of them leave nothing.
    let steps := min ((p - 1) / 308) 2
    let g ← (List.range steps).foldlM (fun (g : Decimal.Binary64) _ => g.div big) f
    if g.significand = 0 then return g
    else g.div (← Decimal.Binary64.tenPow (p - 308 * steps))

/-- The text of a number of double precision. -/
def shown (negative : Bool) (f : Decimal.Binary64) : Text :=
  (if negative then ['-'] else []) ++ (Decimal.Shortest.of f).text

/-- The number of double precision that a numeral stands for; none where it is too large. -/
def floating? (n : Numeral) : Option Number := do
  let (significand, power) := scaledSignificand n
  let exponent : Int := match n.exponent with
    | none => 0
    | some (negative, digits) =>
      let e : Int := (Text.numeral? digits).getD 0
      if negative then -e else e
  if significand = 0 then return .floating (shown n.negative .zero)
  else .floating <$> shown n.negative <$> scale significand (power + exponent)

/-- What a numeral amounts to; none where it is too large. -/
def value? (n : Numeral) : Option Number :=
  let whole := (Text.numeral? n.whole).getD 0
  if n.fraction.isNone && n.exponent.isNone && whole < Nat.pow 2 64 then
    if !n.negative then some (.integer whole)
    else if whole = 0 || whole > Nat.pow 2 63 then
      (Decimal.Binary64.ofRatio whole 1).map fun f => .floating (shown true f)
    else some (.integer (-(whole : Int)))
  else n.floating?

end Numeral

end Cuesheet.Json
