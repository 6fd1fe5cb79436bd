import Cuesheet.Text
import Cuesheet.Text.Word.Table

/-!
Word characters and the boundaries of words.

A word character is a letter, a mark, a decimal digit, a letter number, a connector such as the
underscore, or a joiner. A word starts where a word character follows none.
-/

namespace Cuesheet.Text

def isWord (c : Char) : Bool :=
  if c.toNat < 0x80 then c.isAlphanum || c = '_' else inRanges wordRanges c.toNat

/-- Whether a word ends before `t`, that is, no word character comes first. -/
def wordEnds : Text → Bool
  | [] => true
  | c :: _ => !isWord c

/-- Whether a character can stand in a name: a word character or a hyphen. -/
def isName (c : Char) : Bool := isWord c || c = '-'

/-- The first answer of `find` at a place of the text where a word may start. `inWord` tells
whether a word character stands right before the text. -/
def findAtWord {α : Type} (find : Text → Option α) (inWord : Bool) : Text → Option α
  | [] => none
  | c :: t =>
    match if inWord then none else find (c :: t) with
    | some a => some a
    | none => findAtWord find (isWord c) t

end Cuesheet.Text
