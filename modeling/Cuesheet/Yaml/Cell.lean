import Cuesheet.Text

/-!
Characters with their places.

Where a character stands decides what it means in YAML, so a text is read as a list of `Cell`s. The
ways to end a line that old systems know are one break here; the two Unicode separators stay what they
are.
-/

namespace Cuesheet.Yaml

/-- A character and its place. -/
structure Cell where
  char : Char
  line : Nat
  column : Nat
  deriving DecidableEq, Repr, Inhabited

def isBreak (c : Char) : Bool :=
  c = '\n' || c = '\r' || c = '\u0085' || c = '\u2028' || c = '\u2029'

def isBlank (c : Char) : Bool := c = ' ' || c = '\t'

/-- Whether a character may stand in a text at all. -/
def isPrintable (c : Char) : Bool :=
  isBlank c || isBreak c || Text.inRanges
    [(0x20, 0x7E), (0xA0, 0xD7FF), (0xE000, 0xFFFD), (0x10000, 0x10FFFF)] c.toNat

namespace Cell

/-- Whether a byte order mark starts a line. There it takes up a column and says nothing. -/
def isOrderMark (c : Cell) : Bool := c.column = 0 && c.char = '\ufeff'

/-- A line break as it is kept. -/
def breakChar (c : Char) : Char := if c = '\u2028' || c = '\u2029' then c else '\n'

/-- The cells of a text from a place on. -/
def place : (line column : Nat) → Text → List Cell
  | _, _, [] => []
  | line, column, '\r' :: '\n' :: t => ⟨'\n', line, column⟩ :: place (line + 1) 0 t
  | line, column, c :: t =>
    if isBreak c then ⟨breakChar c, line, column⟩ :: place (line + 1) 0 t
    else ⟨c, line, column⟩ :: place line (column + 1) t

/-- The cells of a text, if all its characters may stand in one. -/
def ofText? (t : Text) : Option (List Cell) :=
  if t.all isPrintable then some (place 0 0 t) else none

end Cell

/-- Whether a blank, a line's end or the text's end comes next. -/
def atGap : List Cell → Bool
  | [] => true
  | c :: _ => isBlank c.char || isBreak c.char

/-- Whether three times the mark stands next, alone at the front of a line. -/
def atDocumentMark (mark : Char) : List Cell → Bool
  | a :: b :: c :: cells =>
    a.column = 0 && a.char = mark && b.char = mark && c.char = mark && atGap cells
  | _ => false

/-- Whether a document starts or ends here. -/
def atDocumentEdge (cells : List Cell) : Bool :=
  atDocumentMark '-' cells || atDocumentMark '.' cells

/-! ### Reading on -/

/-- What reads some cells and goes on behind them, or fails. -/
abbrev Reader := StateT (List Cell) Option

namespace Reader

def peek : Reader (Option Char) := do return (← get).head?.map (·.char)

/-- The characters from here on that satisfy a condition. -/
def takeWhile (p : Char → Bool) : Reader Text := do
  let cells ← get
  set (cells.dropWhile fun c => p c.char)
  return (cells.takeWhile fun c => p c.char).map (·.char)

/-- Passes over the characters from here on that satisfy a condition. -/
def skipWhile (p : Char → Bool) : Reader Unit :=
  modify (List.dropWhile fun c => p c.char)

/-- Passes over a character if it is the next. -/
def accept (c : Char) : Reader Bool := do
  match ← get with
  | d :: cells => if d.char = c then do set cells; return true else return false
  | [] => return false

/-- Passes over a character that has to be the next. -/
def expect (c : Char) : Reader Unit := do guard (← accept c)

/-- Passes over the end of a line, which may have a comment before it. -/
def endLine : Reader Unit := do
  skipWhile isBlank
  if (← peek) = some '#' then skipWhile (! isBreak ·)
  match ← get with
  | [] => return
  | c :: cells => do
    guard (isBreak c.char)
    set cells

end Reader

/-- Whether a character may stand in the name of an anchor, a directive or a tag's handle. -/
def isNameChar (c : Char) : Bool := c.isAlphanum || c = '_' || c = '-'

def hexValue? (c : Char) : Option Nat :=
  if '0' ≤ c && c ≤ '9' then some (c.toNat - '0'.toNat)
  else if 'a' ≤ c && c ≤ 'f' then some (c.toNat - 'a'.toNat + 10)
  else if 'A' ≤ c && c ≤ 'F' then some (c.toNat - 'A'.toNat + 10)
  else none

end Cuesheet.Yaml
