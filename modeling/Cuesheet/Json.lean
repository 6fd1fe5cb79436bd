import Cuesheet.Text.Digit

/-!
JSON values, and their texts.

The compact text has no blanks; the spread text has one member or item a line, indented by two spaces,
and a space after each colon. In a string the quote, the backslash and the controls are written as
escapes, and every other character stands for itself.
-/

namespace Cuesheet

/-- A JSON value. The members of an object are in the order in which they are written. -/
inductive Json where
  | null
  | bool (b : Bool)
  | number (n : Nat)
  | string (t : Text)
  | array (items : List Json)
  | object (members : List (Text × Json))
  deriving Repr, Inhabited

namespace Json

/-! ### Members -/

/-- A member as a list. -/
def member (name : Text) (value : Json) : List (Text × Json) := [(name, value)]

/-- A member that is left out where there is no value. -/
def memberOf? {α : Type} (name : Text) (encode : α → Json) : Option α → List (Text × Json)
  | none => []
  | some a => member name (encode a)

/-- Members that are left out under a condition. -/
def omitIf (condition : Bool) (members : List (Text × Json)) : List (Text × Json) :=
  if condition then [] else members

/-! ### Texts -/

/-- The four lower-case hexadecimal digits of a number below `2 ^ 16`. -/
def hexQuad (n : Nat) : Text :=
  [Nat.digitChar (n / 4096 % 16), Nat.digitChar (n / 256 % 16), Nat.digitChar (n / 16 % 16),
    Nat.digitChar (n % 16)]

/-- A character as it stands in a string. -/
def escaped (c : Char) : Text :=
  if c = '"' then "\\\""
  else if c = '\\' then "\\\\"
  else if c = '\n' then "\\n"
  else if c = '\r' then "\\r"
  else if c = '\t' then "\\t"
  else if c.toNat = 0x8 then "\\b"
  else if c.toNat = 0xC then "\\f"
  else if c.toNat < 0x20 then "\\u" ++ hexQuad c.toNat
  else [c]

/-- A string with its quotes. -/
def stringText (t : Text) : Text := '"' :: t.flatMap escaped ++ "\""

def boolText (b : Bool) : Text := if b then "true" else "false"

mutual

/-- The compact text of a value. -/
def compact : Json → Text
  | null => "null"
  | bool b => boolText b
  | number n => Text.ofNat n
  | string t => stringText t
  | array items => "[" ++ compactItems items ++ "]"
  | object members => "\x7b" ++ compactMembers members ++ "\x7d"

/-- The compact texts of the items, with commas between. -/
def compactItems : List Json → Text
  | [] => []
  | [v] => v.compact
  | v :: w :: items => v.compact ++ "," ++ compactItems (w :: items)

/-- The compact texts of the members, with commas between. -/
def compactMembers : List (Text × Json) → Text
  | [] => []
  | [(k, v)] => stringText k ++ ":" ++ v.compact
  | (k, v) :: m :: members => stringText k ++ ":" ++ v.compact ++ "," ++ compactMembers (m :: members)

end

/-- A new line, indented to a level. -/
def newline (level : Nat) : Text := '\n' :: List.replicate (2 * level) ' '

mutual

/-- The spread text of a value at a level of indentation. -/
def spreadAt (level : Nat) : Json → Text
  | null => "null"
  | bool b => boolText b
  | number n => Text.ofNat n
  | string t => stringText t
  | array [] => "[]"
  | array (v :: items) => "[" ++ spreadItems (level + 1) (v :: items) ++ newline level ++ "]"
  | object [] => "\x7b\x7d"
  | object (m :: members) =>
    "\x7b" ++ spreadMembers (level + 1) (m :: members) ++ newline level ++ "\x7d"

/-- The spread texts of the items, each on a line of its own. -/
def spreadItems (level : Nat) : List Json → Text
  | [] => []
  | [v] => newline level ++ v.spreadAt level
  | v :: w :: items => newline level ++ v.spreadAt level ++ "," ++ spreadItems level (w :: items)

/-- The spread texts of the members, each on a line of its own. -/
def spreadMembers (level : Nat) : List (Text × Json) → Text
  | [] => []
  | [(k, v)] => newline level ++ stringText k ++ ": " ++ v.spreadAt level
  | (k, v) :: m :: members =>
    newline level ++ stringText k ++ ": " ++ v.spreadAt level ++ "," ++
      spreadMembers level (m :: members)

end

/-- The spread text of a value. -/
def spread (v : Json) : Text := v.spreadAt 0

end Json

end Cuesheet
