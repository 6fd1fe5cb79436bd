import Cuesheet.Text.Blank

/-!
Quoted literals of an instruction.

A quote opens a literal at the start of the text or after a blank. The literal closes at the same
quote where the text ends or a blank, a comma or a closing bracket follows; the other quote means
nothing inside. So an apostrophe within a word opens no literal, and a quote that never closes makes
none, though it keeps later quotes from opening.
-/

namespace Cuesheet

/-- A stretch of a text, from position `start` up to, not including, `stop`. -/
structure Span where
  start : Nat
  stop : Nat
  deriving DecidableEq, Repr, Inhabited

/-- Whether a position lies in the span. -/
def Span.covers (s : Span) (i : Nat) : Bool := s.start ≤ i && i < s.stop

namespace Instruction

def isQuote (c : Char) : Bool := c = '\'' || c = '"'

/-- Whether a quote with `t` after it can close a literal. -/
def closesBefore : Text → Bool
  | [] => true
  | c :: _ => Text.isBlank c || c = ',' || c = ')'

/-- How the scan for literals stands between two characters. -/
inductive QuoteState where
  /-- Outside a literal; `canOpen` tells whether a quote here would open one. -/
  | outside (canOpen : Bool)
  /-- Inside a literal that `quote` opened at position `start`. -/
  | inside (quote : Char) (start : Nat)
  deriving DecidableEq, Repr, Inhabited

/-- The spans of the literals in a text at position `i`, both quotes included, when the scan enters
it in the given state. -/
def literalsFrom : QuoteState → (i : Nat) → Text → List Span
  | _, _, [] => []
  | .inside quote start, i, c :: t =>
    if c = quote && closesBefore t then ⟨start, i + 1⟩ :: literalsFrom (.outside false) (i + 1) t
    else literalsFrom (.inside quote start) (i + 1) t
  | .outside canOpen, i, c :: t =>
    if canOpen && isQuote c then literalsFrom (.inside c i) (i + 1) t
    else literalsFrom (.outside (Text.isBlank c)) (i + 1) t

/-- The spans of the literals of a text, in order. -/
def literals (t : Text) : List Span := literalsFrom (.outside true) 0 t

end Instruction

end Cuesheet
