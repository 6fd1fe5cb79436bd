import Cuesheet.Text

/-!
Lines.

A line ends at a line feed, which takes one carriage return before it along. What follows the last
line feed is a line of its own unless it is empty; a carriage return there belongs to it.
-/

namespace Cuesheet.Text

/-- The lines of a text, without their ends. -/
def lines : Text → List Text
  | [] => []
  | '\n' :: t => [] :: lines t
  | '\r' :: '\n' :: t => [] :: lines t
  | c :: t =>
    match lines t with
    | [] => [[c]]
    | l :: ls => (c :: l) :: ls

/-- The texts one below the other. -/
def stack (ts : List Text) : Text := join "\n" ts

/-- Every line of the text moved right by two spaces. -/
def indent (t : Text) : Text := stack ((lines t).map ("  " ++ ·))

end Cuesheet.Text
