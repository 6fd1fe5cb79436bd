import Cuesheet.Text
import Cuesheet.Text.Quoted.Table

/-!
Texts quoted in a message.

A quotation stands between double quotes. The quote and the backslash follow a backslash, and so do
the names of the commonest controls; any other character without a visible form of its own is written
by its code point: one that has no form, a mark that extends the character before it, or a filler.
-/

namespace Cuesheet.Text

/-- Whether a quotation shows a character as it is. -/
def isPlainlyVisible (c : Char) : Bool :=
  let n := c.toNat
  if n < 0x80 then 0x20 ≤ n && n < 0x7F
  else !(inRanges unprintableRanges n || inRanges extendingRanges n || inRanges fillerRanges n)

/-- A character as a quotation shows it. -/
def quotedChar (c : Char) : Text :=
  if c = '"' then "\\\""
  else if c = '\\' then "\\\\"
  else if c = '\n' then "\\n"
  else if c = '\r' then "\\r"
  else if c = '\t' then "\\t"
  else if c.toNat = 0 then "\\0"
  else if isPlainlyVisible c then [c]
  else "\\u\x7b" ++ Nat.toDigits 16 c.toNat ++ "\x7d"

/-- A text between double quotes. -/
def quoted (t : Text) : Text := "\"" ++ t.flatMap quotedChar ++ "\""

end Cuesheet.Text
