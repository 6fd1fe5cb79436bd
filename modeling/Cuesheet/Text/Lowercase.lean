import Cuesheet.Text
import Cuesheet.Text.Lowercase.Table

/-!
Lower-casing, by the full Unicode rules that depend on no language.

Each character has at most one lower-case partner, with two exceptions: a dotted capital `I` becomes
two characters, and a capital sigma becomes the final form when a cased letter stands before it in
its word and none after it.
-/

namespace Cuesheet.Text

/-- Whether a character has case, that is, is upper-case, lower-case or title-case. -/
def isCased (c : Char) : Bool :=
  if c.toNat < 0x80 then c.isAlpha else inRanges casedRanges c.toNat

/-- Whether a character is skipped when cased letters are looked for around a sigma. -/
def isCaseIgnorable (c : Char) : Bool :=
  if c.toNat < 0x80 then ("'.:^`" : Text).contains c
  else inRanges caseIgnorableRanges c.toNat

/-- The lower-case partner of a character, or the character itself. -/
def lowerChar (c : Char) : Char :=
  let n := c.toNat
  if n < 0x80 then c.toLower
  else
    match caseRuns.find? fun r => r.first ≤ n && n ≤ r.last && (n - r.first) % r.step = 0 with
    | some r => Char.ofNat (r.target + (n - r.first))
    | none => c

/-- Whether the next character that is not ignorable has case. -/
def casedAhead (t : Text) : Bool :=
  match t.dropWhile isCaseIgnorable with
  | [] => false
  | c :: _ => isCased c

/-- Lower-casing of a text that follows a cased letter of the same word, or does not. -/
def lowerFrom (afterCased : Bool) : Text → Text
  | [] => []
  | c :: t =>
    let rest := lowerFrom (if isCaseIgnorable c then afterCased else isCased c) t
    if c = 'Σ' then (if afterCased && !casedAhead t then 'ς' else 'σ') :: rest
    else if c = 'İ' then 'i' :: '\u0307' :: rest
    else lowerChar c :: rest

def lower (t : Text) : Text := lowerFrom false t

end Cuesheet.Text
