import Cuesheet.Dictionary
import Cuesheet.Framework

/-!
How a script refers to a recorded element.

A framework that looks elements up by selector gets the selector itself. Any other gets an expression:
the one the user has given for the selector, or a look-up of the selector in the page.
-/

namespace Cuesheet

/-- The user's expressions for elements, by selector. -/
abbrev Locators := Dictionary Text Text

namespace Text

def isControl (c : Char) : Bool := c.toNat < 0x20 || (0x7F ≤ c.toNat && c.toNat ≤ 0x9F)

/-- The two lower-case hexadecimal digits of a number below 256. -/
def hexPair (n : Nat) : Text := [Nat.digitChar (n / 16), Nat.digitChar (n % 16)]

/-- A character as it stands in a double-quoted string of a script. -/
def scriptChar (c : Char) : Text :=
  if c = '"' then "\\\""
  else if c = '\\' then "\\\\"
  else if c = '\n' then "\\n"
  else if c = '\r' then "\\r"
  else if c = '\t' then "\\t"
  else if c = '\u2028' then "\\u2028"
  else if c = '\u2029' then "\\u2029"
  else if isControl c then "\\x" ++ hexPair c.toNat
  else [c]

/-- A text as it stands in a double-quoted string of a script. -/
def scriptString (t : Text) : Text := t.flatMap scriptChar

end Text

namespace Locator

/-- The expression that looks a selector up in the page. -/
def query (selector : Text) : Text :=
  "document.querySelector(\"" ++ Text.scriptString selector ++ "\")"

/-- What a script of a framework puts for the element recorded under a selector. -/
def resolve (f : Framework) (locators : Locators) (selector : Text) : Text :=
  if f.usesSelectors then selector else (locators.get? selector).getD (query selector)

end Locator

end Cuesheet
