import Cuesheet.Text

/-!
Blanks, and texts without outer blanks.

A blank is a character with the Unicode property `White_Space`: the ASCII blanks and line ends, the
next-line control, the no-break space, the typographic spaces and the ideographic space.
-/

namespace Cuesheet.Text

/-- The ranges of blanks, both ends included. -/
def blankRanges : List (Nat × Nat) :=
  [(0x9, 0xD), (0x20, 0x20), (0x85, 0x85), (0xA0, 0xA0), (0x1680, 0x1680), (0x2000, 0x200A),
    (0x2028, 0x2029), (0x202F, 0x202F), (0x205F, 0x205F), (0x3000, 0x3000)]

def isBlank (c : Char) : Bool := inRanges blankRanges c.toNat

def trimStart (t : Text) : Text := t.dropWhile isBlank

def trimEnd : Text → Text
  | [] => []
  | c :: t =>
    match trimEnd t with
    | [] => if isBlank c then [] else [c]
    | rest => c :: rest

/-- The text without its outer blanks. -/
def trim (t : Text) : Text := trimEnd (trimStart t)

def isBlankText (t : Text) : Bool := t.all isBlank

/-- A text unless it holds blanks only. -/
def nonBlank? (t : Text) : Option Text := if isBlankText t then none else some t

end Cuesheet.Text
