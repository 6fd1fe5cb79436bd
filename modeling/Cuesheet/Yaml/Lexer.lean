import Cuesheet.Yaml.Token

/-!
The tokens that a text consists of.

`Lexer` is what is known so far: the drafts of the tokens, the columns that open blocks are indented
to, the open brackets, and where the key may start that a colon would make one. A key is on one line
and at most 1024 characters long; where nothing but a key can stand, the colon has to come. Inside
brackets indentation means nothing.
-/

namespace Cuesheet.Yaml

/-- Where a key may have started. -/
structure KeyCandidate where
  slot : Nat
  line : Nat
  column : Nat
  /-- Whether nothing but a key can stand there. -/
  required : Bool
  deriving DecidableEq, Repr

/-- The state between two tokens. -/
structure Lexer where
  /-- The drafts so far, the last first. -/
  drafts : List Draft := []
  /-- The number of slots left so far. -/
  slots : Nat := 0
  /-- The slots found to start a key. -/
  keyStarts : List KeyStart := []
  /-- The columns that the open blocks are indented to, the innermost first. -/
  indents : List Nat := []
  /-- Where the current key may have started. -/
  candidate : Option KeyCandidate := none
  /-- The same for what is around each open bracket, the innermost first. -/
  outer : List (Option KeyCandidate) := []
  /-- Whether a key may start next. -/
  keyAllowed : Bool := true
  deriving Repr

namespace Lexer

/-- Whether a bracket is open. -/
def inFlow (s : Lexer) : Bool := !s.outer.isEmpty

def emit (s : Lexer) (t : Token) : Lexer := { s with drafts := .token t :: s.drafts }

/-- The state that allows a key next or does not. -/
def allowKey (s : Lexer) (allowed : Bool) : Lexer := { s with keyAllowed := allowed }

/-! ### Blocks -/

/-- The state with the blocks closed that satisfy a condition on their column. -/
def closeBlocks (s : Lexer) (p : Nat → Bool) : Lexer :=
  if s.inFlow then s
  else
    { s with
      indents := s.indents.dropWhile p
      drafts := (s.indents.takeWhile p).map (fun _ => .token .blockEnd) ++ s.drafts }

/-- Whether a block at a column would be inside all open ones. -/
def opensAt (s : Lexer) (column : Nat) : Bool :=
  !s.inFlow && s.indents.head?.all (· < column)

/-- The state with a block opened at a column, if it is inside all open ones. -/
def openBlock (s : Lexer) (column : Nat) (start : Token) : Lexer :=
  if s.opensAt column then { s.emit start with indents := column :: s.indents } else s

/-! ### Keys -/

/-- The state in which what was read so far starts no key. -/
def dropCandidate (s : Lexer) : Option Lexer := do
  guard (s.candidate.all (! ·.required))
  return { s with candidate := none }

/-- The state in which a key may start at a cell. -/
def markCandidate (s : Lexer) (c : Cell) : Option Lexer :=
  if s.keyAllowed then do
    let s ← s.dropCandidate
    return { s with
      slots := s.slots + 1
      drafts := .slot s.slots :: s.drafts
      candidate := some {
        slot := s.slots, line := c.line, column := c.column
        required := !s.inFlow && s.indents.head? = some c.column } }
  else some s

/-- How long a key may be. -/
def keyLimit : Nat := 1024

/-- Whether a key cannot reach to a cell. -/
def KeyCandidate.isStale (k : KeyCandidate) (c : Cell) : Bool :=
  k.line < c.line || k.column + keyLimit < c.column

/-- A candidate, unless it cannot reach to a cell. -/
def refresh (c : Cell) : Option KeyCandidate → Option (Option KeyCandidate)
  | none => some none
  | some k => if KeyCandidate.isStale k c then if k.required then none else some none else some (some k)

/-- The state without the candidates that cannot reach to a cell. -/
def dropStale (s : Lexer) (c : Cell) : Option Lexer := do
  return { s with
    candidate := ← refresh c s.candidate
    outer := ← s.outer.mapM (refresh c) }

/-! ### Single tokens -/

/-- The state before a token that closes all blocks. -/
def leaveBlocks (s : Lexer) : Option Lexer := do
  return (← (s.closeBlocks fun _ => true).dropCandidate).allowKey false

def openFlow (s : Lexer) (c : Cell) (start : Token) : Option Lexer := do
  let s ← s.markCandidate c
  return { s.emit start with
    candidate := none, outer := s.candidate :: s.outer, keyAllowed := true }

def closeFlow (s : Lexer) (stop : Token) : Option Lexer := do
  let s ← s.dropCandidate
  match s.outer with
  | [] => return { s.emit stop with keyAllowed := false }
  | k :: outer => return { s.emit stop with candidate := k, outer, keyAllowed := false }

/-- A hyphen comes before an item, or a question mark before a key. -/
def blockIndicator (s : Lexer) (c : Cell) (start indicator : Token) : Option Lexer := do
  guard (s.inFlow || s.keyAllowed)
  return (← (s.openBlock c.column start).dropCandidate).emit indicator

/-- A colon comes before a value. -/
def colon (s : Lexer) (c : Cell) : Option Lexer :=
  match s.candidate with
  | some k =>
    let starts := s.opensAt k.column
    some ({ s with
      keyStarts := { slot := k.slot, startsMapping := starts } :: s.keyStarts
      indents := if starts then k.column :: s.indents else s.indents
      candidate := none
      keyAllowed := false }.emit .value)
  | none => do
    guard (s.inFlow || s.keyAllowed)
    return ((s.openBlock c.column .blockMappingStart).allowKey (!s.inFlow)).emit .value

/-- The character that starts no plain scalar, unless something follows it closely. -/
def isIndicator (c : Char) : Bool := c ∈ ("-?:,[]\x7b\x7d#&*!|>'\"%@`" : Text)

/-- Whether a plain scalar starts here. -/
def startsPlain (flow : Bool) (c : Char) (cells : List Cell) : Bool :=
  !(isBlank c || isIndicator c) ||
    (c = '-' && !(cells.head?.any (isBlank ·.char))) ||
    (!flow && (c = '?' || c = ':') && !atGap cells)

/-- The next token, which starts at the first of the cells. -/
def token (s : Lexer) : List Cell → Option (Lexer × List Cell)
  | [] => none
  | c :: cells => do
    let here := c :: cells
    let flow := s.inFlow
    let spaced := flow || atGap cells
    let scalar (isPlain : Bool) (read : Option (Text × List Cell)) : Option (Lexer × List Cell) := do
      let (t, rest) ← read
      return ((← s.markCandidate c).allowKey false |>.emit (.scalar isPlain t), rest)
    let folding (folded : Bool) : Option (Lexer × List Cell) := do
      let s ← s.dropCandidate
      let (t, rest) ← block folded s.indents cells
      return ((s.allowKey true).emit (.scalar false t), rest)
    let named (build : Text → Token) : Option (Lexer × List Cell) := do
      let (name, rest) ← anchorName.run cells
      return ((← s.markCandidate c).allowKey false |>.emit (build name), rest)
    if c.column = 0 && c.char = '%' then
      let (t, rest) ← directive.run cells
      return ((← s.leaveBlocks).emit t, rest)
    else if atDocumentMark '-' here then return ((← s.leaveBlocks).emit .documentStart, here.drop 3)
    else if atDocumentMark '.' here then return ((← s.leaveBlocks).emit .documentEnd, here.drop 3)
    else if c.char = '[' then return (← s.openFlow c .flowSequenceStart, cells)
    else if c.char = '\x7b' then return (← s.openFlow c .flowMappingStart, cells)
    else if c.char = ']' then return (← s.closeFlow .flowSequenceEnd, cells)
    else if c.char = '\x7d' then return (← s.closeFlow .flowMappingEnd, cells)
    else if c.char = ',' then
      return ((← s.dropCandidate).allowKey true |>.emit .flowEntry, cells)
    else if c.char = '-' && atGap cells then
      return ((← s.blockIndicator c .blockSequenceStart .blockEntry).allowKey true, cells)
    else if c.char = '?' && spaced then
      return ((← s.blockIndicator c .blockMappingStart .key).allowKey (!flow), cells)
    else if c.char = ':' && spaced then return (← s.colon c, cells)
    else if c.char = '*' then named .alias
    else if c.char = '&' then named .anchor
    else if c.char = '!' then
      let (t, rest) ← (tag flow).run here
      return ((← s.markCandidate c).allowKey false |>.emit (.tag t), rest)
    else if c.char = '|' && !flow then folding false
    else if c.char = '>' && !flow then folding true
    else if c.char = '\'' then scalar false (singleQuoted .none cells)
    else if c.char = '"' then scalar false (doubleQuoted (.after .none) cells)
    else if startsPlain flow c.char cells then
      let indent := match s.indents with
        | [] => 0
        | i :: _ => i + 1
      let (t, broken, rest) ← plain flow indent .none here
      return ((← s.markCandidate c).allowKey broken |>.emit (.scalar true t), rest)
    else none

/-! ### All tokens -/

/-- The state at the next token and the cells from it on. Comments go to the end of their line; in a
block, a new line may start with a key, and no tab stands before one. A byte order mark may start a
line. -/
def skipGap (s : Lexer) (inComment : Bool) : List Cell → Lexer × List Cell
  | [] => (s, [])
  | c :: cells =>
    if isBreak c.char then (s.allowKey (s.keyAllowed || !s.inFlow)).skipGap false cells
    else if inComment || c.char = '#' then s.skipGap true cells
    else if c.char = ' ' || (c.char = '\t' && (s.inFlow || !s.keyAllowed)) || c.isOrderMark then
      s.skipGap false cells
    else (s, c :: cells)

/-- The state at the end of a text. Every step reads a cell at least, so as many steps as there are
cells are enough. -/
def run : (steps : Nat) → Lexer → List Cell → Option Lexer
  | steps, s, cells =>
    match s.skipGap false cells with
    | (s, []) => s.leaveBlocks
    | (s, c :: cells) =>
      match steps with
      | 0 => none
      | steps + 1 => do
        let s ← s.dropStale c
        let (s, rest) ← (s.closeBlocks (c.column < ·)).token (c :: cells)
        run steps s rest

end Lexer

/-- The tokens of a text, if it consists of tokens. -/
def Token.ofText? (t : Text) : Option (List Token) := do
  let cells ← Cell.ofText? t
  let s ← Lexer.run cells.length {} cells
  return Token.settle s.keyStarts s.drafts.reverse

end Cuesheet.Yaml
