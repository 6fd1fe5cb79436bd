import Cuesheet.Yaml.Cell

/-!
Scalars: the texts in a YAML document.

A scalar is written plainly, in either kind of quotes, or as a block of lines. Blanks and line breaks
inside one fold (`Gap`): blanks around a line break go away, a single break is a space, and of several
the first goes away. A block keeps its breaks, or folds those between lines that start with no blank.
-/

namespace Cuesheet.Yaml

/-- Blanks and line breaks met inside a scalar since the last other character. -/
inductive Gap where
  /-- Blanks on one line. -/
  | blanks (t : Text)
  /-- A line break, which is missing where it was escaped, and the breaks after it. -/
  | breaks (first : Option Char) (more : Text)
  deriving DecidableEq, Repr

namespace Gap

def none : Gap := blanks []

/-- The gap with one more character. -/
def add (g : Gap) (c : Char) : Gap :=
  match g, isBreak c with
  | blanks _, true => breaks (some c) []
  | blanks t, false => blanks (t ++ [c])
  | breaks first more, true => breaks first (more ++ [c])
  | breaks first more, false => breaks first more

/-- What the gap comes to when the scalar goes on. -/
def text : Gap → Text
  | blanks t => t
  | breaks (some '\n') [] => " "
  | breaks (some '\n') more => more
  | breaks first more => first.toList ++ more

/-- Whether the gap goes over a line's end. -/
def isBroken : Gap → Bool
  | blanks _ => false
  | breaks .. => true

end Gap

/-- More text in front of what was read. -/
def prepend {α : Type} (t : Text) (read : Option (Text × α)) : Option (Text × α) :=
  read.map fun r => (t ++ r.1, r.2)

/-- Whether a character makes part of a gap. -/
def isGapChar (c : Char) : Bool := isBlank c || isBreak c

/-! ### Quotes -/

/-- The rest of a scalar in single quotes, in which a quote is written twice. -/
def singleQuoted (gap : Gap) : List Cell → Option (Text × List Cell)
  | [] => none
  | c :: cells =>
    if isGapChar c.char then singleQuoted (gap.add c.char) cells
    else if atDocumentEdge (c :: cells) then none
    else if c.char = '\'' then
      match cells with
      | [] => some (gap.text, [])
      | d :: cells =>
        if d.char = '\'' then prepend (gap.text ++ ['\'']) (singleQuoted .none cells)
        else some (gap.text, d :: cells)
    else prepend (gap.text ++ [c.char]) (singleQuoted .none cells)

/-- The character that a backslash and another character stand for. -/
def escape? (c : Char) : Option Char :=
  match c with
  | '0' => some '\x00'
  | 'a' => some '\x07'
  | 'b' => some '\x08'
  | 't' | '\t' => some '\t'
  | 'n' => some '\n'
  | 'v' => some '\x0b'
  | 'f' => some '\x0c'
  | 'r' => some '\r'
  | 'e' => some '\x1b'
  | 'N' => some '\u0085'
  | '_' => some '\u00a0'
  | 'L' => some '\u2028'
  | 'P' => some '\u2029'
  | ' ' | '"' | '/' | '\\' => some c
  | _ => none

/-- How many hexadecimal digits follow a backslash and a letter. -/
def escapeDigits? (c : Char) : Option Nat :=
  match c with
  | 'x' => some 2
  | 'u' => some 4
  | 'U' => some 8
  | _ => none

/-- The character of a code point. -/
def charOf? (n : Nat) : Option Char :=
  if n.isValidChar then some (Char.ofNat n) else none

/-- Where the reading of a scalar in double quotes stands. -/
inductive Quoting where
  /-- After a gap. -/
  | after (gap : Gap)
  /-- After a backslash. -/
  | escape
  /-- In a code point of which `left + 1` digits are to come. -/
  | digits (left value : Nat)
  deriving DecidableEq, Repr

/-- The rest of a scalar in double quotes. -/
def doubleQuoted : Quoting → List Cell → Option (Text × List Cell)
  | _, [] => none
  | .after gap, c :: cells =>
    if isGapChar c.char then doubleQuoted (.after (gap.add c.char)) cells
    else if atDocumentEdge (c :: cells) then none
    else if c.char = '"' then some (gap.text, cells)
    else if c.char = '\\' then prepend gap.text (doubleQuoted .escape cells)
    else prepend (gap.text ++ [c.char]) (doubleQuoted (.after .none) cells)
  | .escape, c :: cells =>
    if isBreak c.char then doubleQuoted (.after (.breaks none [])) cells
    else
      match escape? c.char, escapeDigits? c.char with
      | some d, _ => prepend [d] (doubleQuoted (.after .none) cells)
      | none, some n => doubleQuoted (.digits (n - 1) 0) cells
      | none, none => none
  | .digits left value, c :: cells =>
    match hexValue? c.char, left with
    | none, _ => none
    | some d, left + 1 => doubleQuoted (.digits left (16 * value + d)) cells
    | some d, 0 =>
      match charOf? (16 * value + d) with
      | none => none
      | some c => prepend [c] (doubleQuoted (.after .none) cells)

/-! ### Plain scalars -/

/-- Whether a plain scalar ends before a character. -/
def endsPlain (flow : Bool) (c : Char) (cells : List Cell) : Bool :=
  (c = ':' && atGap cells) || (flow && c ∈ [',', '[', ']', '\x7b', '\x7d'])

/-- Whether a colon stands where none may: inside brackets, with one of them behind it. -/
def isStrayColon (flow : Bool) (c : Char) (cells : List Cell) : Bool :=
  flow && c = ':' &&
    (cells.head?.map (·.char)).any (· ∈ [',', '?', '[', ']', '\x7b', '\x7d'])

/-- A plain scalar, whose lines after the first start at column `indent` or right of it unless it
stands in brackets. Also says whether a line's end was passed behind it. -/
def plain (flow : Bool) (indent : Nat) (gap : Gap) :
    List Cell → Option (Text × Bool × List Cell)
  | [] => some ([], gap.isBroken, [])
  | c :: cells =>
    if isGapChar c.char then
      if gap.isBroken && c.column < indent && c.char = '\t' then none
      else plain flow indent (gap.add c.char) cells
    else if (gap.isBroken && !flow && c.column < indent) || atDocumentEdge (c :: cells) ||
        (gap ≠ .none && c.char = '#') then
      some ([], gap.isBroken, c :: cells)
    else if isStrayColon flow c.char cells then none
    else if endsPlain flow c.char cells then some ([], gap.isBroken, c :: cells)
    else prepend (gap.text ++ [c.char]) (plain flow indent .none cells)

/-! ### Blocks -/

/-- What becomes of the line breaks at the end of a block. -/
inductive Chomping where
  | strip
  /-- One stays. -/
  | clip
  | keep
  deriving DecidableEq, Repr

/-- The first line of a block: what becomes of its end, and how far right of its surroundings it
stands where that is said. -/
def blockHeader : Reader (Chomping × Option Nat) := do
  let chomping : Reader (Option Chomping) := do
    if ← Reader.accept '+' then return some .keep
    else if ← Reader.accept '-' then return some .strip
    else return none
  let increment : Reader (Option Nat) := do
    match ← Reader.peek with
    | none => return none
    | some c =>
      if c.isDigit then do
        guard (c ≠ '0')
        Reader.expect c
        return some (c.toNat - '0'.toNat)
      else return none
  let first ← chomping
  let n ← increment
  let second ← if first.isNone && n.isSome then chomping else pure none
  Reader.endLine
  return ((first.or second).getD .clip, n)

/-- The line breaks before the first line of a block that is not empty, the column it is indented to
at least, and what follows. -/
def blockLead (column : Nat) : List Cell → Option (Nat × Text × List Cell)
  | [] => some (column, [], [])
  | c :: cells =>
    if c.char = ' ' then blockLead column cells
    else
      let column := max column c.column
      if c.char = '\t' then none
      else if isBreak c.char then
        (blockLead column cells).map fun r => (r.1, c.char :: r.2.1, r.2.2)
      else some (column, [], c :: cells)

/-- Where the reading of a block stands. -/
inductive BlockState where
  /-- In a line, which starts with a blank or not. -/
  | line (blank : Bool)
  /-- Behind a line of which the same is known: its break if there was a line, and more breaks. -/
  | between (blank : Bool) (first more : Text)
  deriving DecidableEq, Repr

/-- The breaks between two lines of a block that start with a blank or not. -/
def blockGap (folded blank nextBlank : Bool) (first more : Text) : Text :=
  if folded && first = ['\n'] && !blank && !nextBlank then
    if more = [] then [' '] else more
  else first ++ more

/-- The breaks at the end of a block. -/
def chomp (chomping : Chomping) (first more : Text) : Text :=
  match chomping with
  | .strip => []
  | .clip => first
  | .keep => first ++ more

/-- The lines of a block that is indented to a column. -/
def blockLines (folded : Bool) (chomping : Chomping) (indent : Nat) :
    BlockState → List Cell → Option (Text × List Cell)
  | .line _, [] => some ([], [])
  | .between _ first more, [] => some (chomp chomping first more, [])
  | .line blank, c :: cells =>
    if isBreak c.char then
      blockLines folded chomping indent (.between blank [c.char] []) cells
    else prepend [c.char] (blockLines folded chomping indent (.line blank) cells)
  | .between blank first more, c :: cells =>
    if isBreak c.char then
      blockLines folded chomping indent (.between blank first (more ++ [c.char])) cells
    else if c.column < indent && c.char = ' ' then
      blockLines folded chomping indent (.between blank first more) cells
    else if c.column < indent && c.char = '\t' then none
    else if c.column = indent then
      prepend (blockGap folded blank (isBlank c.char) first more ++ [c.char])
        (blockLines folded chomping indent (.line (isBlank c.char)) cells)
    else some (chomp chomping first more, c :: cells)

/-- A block, behind its indicator. Its surroundings are indented to the columns given, the innermost
first. -/
def block (folded : Bool) (indents : List Nat) (cells : List Cell) :
    Option (Text × List Cell) := do
  let ((chomping, increment), cells) ← blockHeader.run cells
  match increment with
  | some n =>
    blockLines folded chomping (indents.headD 0 + n) (.between false [] []) cells
  | none =>
    let (column, breaks, cells) ← blockLead 0 cells
    let least := match indents with
      | [] => 1
      | i :: _ => i + 1
    blockLines folded chomping (max column least) (.between false [] breaks) cells

end Cuesheet.Yaml
