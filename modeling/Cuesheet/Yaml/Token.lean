import Cuesheet.Yaml.Scalar

/-!
The tokens of a YAML text.

Block structure is told by indentation, and tokens of their own (`blockMappingStart`, `blockEnd`) say
where blocks start and end. That something is a key shows only at the colon behind it. So wherever a
key might start a slot is left among the tokens (`Draft.slot`), and `Token.settle` puts into the slots
what they turned out to be.
-/

namespace Cuesheet.Yaml

/-- A tag as written: the handle, which stands for a lead, and the rest. -/
structure Tag where
  handle : Text
  rest : Text
  deriving DecidableEq, Repr

inductive Token where
  | version (major minor : Nat)
  /-- A handle of tags declared with the lead it stands for. -/
  | handle (name lead : Text)
  | documentStart
  | documentEnd
  | blockSequenceStart
  | blockMappingStart
  | blockEnd
  | flowSequenceStart
  | flowSequenceEnd
  | flowMappingStart
  | flowMappingEnd
  /-- The hyphen of a block sequence. -/
  | blockEntry
  /-- The comma in brackets. -/
  | flowEntry
  | key
  | value
  | alias (name : Text)
  | anchor (name : Text)
  | tag (t : Tag)
  | scalar (isPlain : Bool) (text : Text)
  deriving DecidableEq, Repr

/-- A token, or a place where a key may turn out to start. -/
inductive Draft where
  | token (t : Token)
  | slot (number : Nat)
  deriving DecidableEq, Repr

/-- A slot at which a key starts. -/
structure KeyStart where
  slot : Nat
  /-- Whether a block mapping starts with the key. -/
  startsMapping : Bool
  deriving DecidableEq, Repr

/-- What a slot turned out to be. -/
def KeyStart.tokens (starts : List KeyStart) (slot : Nat) : List Token :=
  match starts.find? (·.slot = slot) with
  | none => []
  | some s => if s.startsMapping then [.blockMappingStart, .key] else [.key]

/-- The tokens of drafts, given the slots at which keys start. -/
def Token.settle (starts : List KeyStart) (drafts : List Draft) : List Token :=
  drafts.flatMap fun
    | .token t => [t]
    | .slot n => KeyStart.tokens starts n

/-! ### Names, tags and directives -/

/-- The name of an anchor, behind its indicator. -/
def anchorName : Reader Text := do
  let name ← Reader.takeWhile isNameChar
  guard (name ≠ [])
  match ← get with
  | [] => return name
  | c :: cells => do
    guard (atGap (c :: cells) || c.char ∈ ("?:,]\x7d%@`" : Text))
    return name

/-- Whether a character may stand in a tag; some may only between angle brackets. -/
def isTagChar (bracketed : Bool) (c : Char) : Bool :=
  isNameChar c || c ∈ (";/?:@&=+$.!~*'()" : Text) || (bracketed && c ∈ (",[]" : Text))

/-- How many more octets follow the first of a character in UTF-8. -/
def octetsAfter? (octet : Nat) : Option Nat :=
  if octet < 0x80 then some 0
  else if octet / 0x20 = 0b110 then some 1
  else if octet / 0x10 = 0b1110 then some 2
  else if octet / 0x08 = 0b11110 then some 3
  else none

/-- The octets of a tag from here on, each as a character; `left` more are due that continue a
character. An octet may be written as a percent sign and two hexadecimal digits. -/
def tagOctets (bracketed : Bool) : (left : Nat) → List Cell → Option (Text × List Cell)
  | left, a :: b :: c :: cells =>
    if a.char = '%' then
      match hexValue? b.char, hexValue? c.char with
      | some h, some l =>
        let octet := 16 * h + l
        match left with
        | 0 =>
          match octetsAfter? octet with
          | some n => prepend [Char.ofNat octet] (tagOctets bracketed n cells)
          | none => none
        | n + 1 =>
          if octet / 0x40 = 0b10 then
            prepend [Char.ofNat octet] (tagOctets bracketed n cells)
          else none
      | _, _ => none
    else if 0 < left then none
    else if isTagChar bracketed a.char then
      prepend [a.char] (tagOctets bracketed 0 (b :: c :: cells))
    else some ([], a :: b :: c :: cells)
  | left, [a, b] =>
    if 0 < left || a.char = '%' then none
    else if isTagChar bracketed a.char then prepend [a.char] (tagOctets bracketed 0 [b])
    else some ([], [a, b])
  | left, [a] =>
    if 0 < left || a.char = '%' then none
    else if isTagChar bracketed a.char then some ([a.char], [])
    else some ([], [a])
  | left, [] => if 0 < left then none else some ([], [])

def tagPart (bracketed : Bool) : Reader Text := tagOctets bracketed 0

/-- What stands for the lead of tags: a name between exclamation marks, or one mark with what comes
behind it. -/
def tagHandle : Reader Text := do
  Reader.expect '!'
  let name ← Reader.takeWhile isNameChar
  return if ← Reader.accept '!' then '!' :: name ++ ['!'] else '!' :: name

/-- Whether a handle is closed by an exclamation mark of its own. -/
def isClosedHandle (handle : Text) : Bool :=
  2 ≤ handle.length && handle.getLast? = some '!'

/-- A tag. In brackets a comma may follow it. -/
def tag (flow : Bool) : Reader Tag := do
  let t : Tag ← match ← get with
    | _ :: ⟨'<', _, _⟩ :: cells => do
      set cells
      let rest ← tagPart true
      guard (rest ≠ [])
      Reader.expect '>'
      pure { handle := [], rest }
    | _ => do
      let handle ← tagHandle
      if isClosedHandle handle then do
        let rest ← tagPart false
        guard (rest ≠ [])
        pure { handle, rest }
      else do
        let rest := handle.drop 1 ++ (← tagPart false)
        pure (if rest = [] then { handle := [], rest := ['!'] } else { handle := ['!'], rest })
  guard (atGap (← get) || (flow && (← Reader.peek) = some ','))
  return t

/-- A number of a version, of nine digits at most. -/
def versionNumber : Reader Nat := do
  let digits ← Reader.takeWhile Char.isDigit
  guard (digits ≠ [] && digits.length ≤ 9)
  return digits.foldl (fun n c => 10 * n + (c.toNat - '0'.toNat)) 0

/-- A directive, behind its indicator. -/
def directive : Reader Token := do
  let name ← Reader.takeWhile isNameChar
  guard (atGap (← get))
  Reader.skipWhile isBlank
  let token ← match String.ofList name with
    | "YAML" => do
      let major ← versionNumber
      Reader.expect '.'
      pure (.version major (← versionNumber))
    | "TAG" => do
      let handle ← tagHandle
      guard (handle = ['!'] || isClosedHandle handle)
      guard ((← Reader.peek).any isBlank)
      Reader.skipWhile isBlank
      let lead ← tagPart true
      guard (lead ≠ [] && atGap (← get))
      pure (.handle handle lead)
    | _ => failure
  Reader.endLine
  return token

end Cuesheet.Yaml
