import Cuesheet.Text
import Cuesheet.Text.Digit.Table

/-!
Digits and numbers written in decimal.

A *decimal digit* is any character of that Unicode category; a *numeral* is written with the ten
ASCII digits alone, and only numerals have a value here.
-/

namespace Cuesheet.Text

def isDecimalDigit (c : Char) : Bool :=
  if c.toNat < 0x80 then c.isDigit else inRanges digitRanges c.toNat

/-- The value of an ASCII digit. -/
def digitValue? (c : Char) : Option Nat :=
  if c.isDigit then some (c.toNat - 0x30) else none

/-- The value of the digits of a text read after the number `n`. -/
def numeralFrom (n : Nat) : Text → Option Nat
  | [] => some n
  | c :: t => (digitValue? c).bind fun d => numeralFrom (10 * n + d) t

/-- The value of a numeral; a text without a digit has none. -/
def numeral? (t : Text) : Option Nat := if t = [] then none else numeralFrom 0 t

/-- The value of a numeral below `bound`. -/
def numeralBelow? (bound : Nat) (t : Text) : Option Nat := (numeral? t).filter (· < bound)

/-- The decimal text of a number. -/
def ofNat (n : Nat) : Text := Nat.toDigits 10 n

end Cuesheet.Text
