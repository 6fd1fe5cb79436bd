import Cuesheet.Text

/-!
Patterns that match a text literally.

Inside a regular-expression literal a character with a meaning of its own is written after a
backslash; so is the slash, which would end the literal.
-/

namespace Cuesheet.Text

/-- The characters that a pattern writes after a backslash. -/
def metacharacters : Text := ".*+?^$\x7b\x7d()|[]\\/"

/-- The pattern that matches exactly this text. -/
def literalPattern : Text → Text
  | [] => []
  | c :: t => if c ∈ metacharacters then '\\' :: c :: literalPattern t else c :: literalPattern t

end Cuesheet.Text
