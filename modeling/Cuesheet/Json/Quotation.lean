import Cuesheet.Text

/-!
Strings in a JSON text.

Between its quotes a string holds characters and escapes. An escape by code unit may be half of a
surrogate pair; a half without the other is well formed as an escape but says no character.
-/

namespace Cuesheet.Json

inductive Unit16 where
  /-- A character, or an escape that names one. -/
  | char (c : Char)
  /-- An escape by code unit. -/
  | code (n : Nat)
  deriving DecidableEq, Repr

/-- What a string says. -/
inductive Quotation where
  | text (t : Text)
  /-- The string holds half a surrogate pair. -/
  | unpaired
  /-- The string is not written as it should be, or never closes. -/
  | broken
  deriving DecidableEq, Repr, Inhabited

namespace Quotation

/-- The value of a hexadecimal digit. -/
def hexValue? (c : Char) : Option Nat :=
  if c.isDigit then some (c.toNat - 0x30)
  else if 'a' ≤ c && c ≤ 'f' then some (c.toNat - 0x57)
  else if 'A' ≤ c && c ≤ 'F' then some (c.toNat - 0x37)
  else none

/-- The character that a one-letter escape names. -/
def named? : Char → Option Char
  | '"' => some '"'
  | '\\' => some '\\'
  | '/' => some '/'
  | 'b' => some '\x08'
  | 'f' => some '\x0c'
  | 'n' => some '\n'
  | 'r' => some '\r'
  | 't' => some '\t'
  | _ => none

/-- The items of a string whose opening quote has been read, and what follows its closing quote. -/
def lex? : Text → Option (List Unit16 × Text)
  | [] => none
  | '"' :: t => some ([], t)
  | '\\' :: 'u' :: a :: b :: c :: d :: t =>
    match hexValue? a, hexValue? b, hexValue? c, hexValue? d with
    | some w, some x, some y, some z =>
      (lex? t).map fun (units, rest) => (.code (((w * 16 + x) * 16 + y) * 16 + z) :: units, rest)
    | _, _, _, _ => none
  | '\\' :: e :: t =>
    match named? e with
    | some c => (lex? t).map fun (units, rest) => (.char c :: units, rest)
    | none => none
  | c :: t =>
    if c = '\\' || c.toNat < 0x20 then none
    else (lex? t).map fun (units, rest) => (.char c :: units, rest)

/-- Whether a code unit is the first half of a surrogate pair. -/
def isHigh (n : Nat) : Bool := 0xD800 ≤ n && n < 0xDC00

def isLow (n : Nat) : Bool := 0xDC00 ≤ n && n < 0xE000

def characters? : List Unit16 → Option Text
  | [] => some []
  | .char c :: units => (characters? units).map (c :: ·)
  | .code n :: .code m :: units =>
    if isHigh n && isLow m then
      (characters? units).map (Char.ofNat (0x10000 + (n - 0xD800) * 0x400 + (m - 0xDC00)) :: ·)
    else if isHigh n || isLow n then none
    else (characters? (.code m :: units)).map (Char.ofNat n :: ·)
  | .code n :: units =>
    if isHigh n || isLow n then none else (characters? units).map (Char.ofNat n :: ·)

/-- What a string says whose opening quote has been read, and what follows its closing quote. -/
def read (t : Text) : Quotation × Option Text :=
  match lex? t with
  | none => (broken, none)
  | some (units, rest) =>
    match characters? units with
    | some t => (text t, some rest)
    | none => (unpaired, some rest)

end Quotation

end Cuesheet.Json
