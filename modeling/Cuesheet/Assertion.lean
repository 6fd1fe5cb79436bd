import Cuesheet.Dictionary
import Cuesheet.Text.Blank
import Cuesheet.Text.Lowercase

/-!
The kinds of assertion a script can make from a template.

A kind has one name, by which templates and recordings are keyed. `ofKey?` reads the name as people
type it: case and outer blanks do not matter, and a space, a hyphen and an underscore are the same.
-/

namespace Cuesheet

/-- What a templated assertion checks. -/
inductive AssertionKind where
  /-- The element is there. -/
  | present
  /-- Its text is the recorded value. -/
  | hasText
  /-- Its form value is the recorded value. -/
  | valueIs
  deriving DecidableEq, Repr, Inhabited

namespace AssertionKind

/-- Every kind, in the order in which tables list them. -/
def all : List AssertionKind := [present, hasText, valueIs]

/-- The place of a kind in that order. -/
def rank : AssertionKind → Nat
  | present => 0
  | hasText => 1
  | valueIs => 2

instance : Ord AssertionKind := ⟨compareOn rank⟩

instance : Std.TransOrd AssertionKind :=
  inferInstanceAs (Std.TransCmp (compareOn rank))

instance : Std.LawfulEqOrd AssertionKind where
  eq_of_compare {a b} h := by
    have hrank : compare a.rank b.rank = .eq := h
    have : a.rank = b.rank := Std.LawfulEqCmp.eq_of_compare hrank
    cases a <;> cases b <;> simp_all [rank]

def key : AssertionKind → Text
  | present => "exists"
  | hasText => "has text"
  | valueIs => "value is"

/-- The kind with the given name, as people type it. -/
def ofKey? (typed : Text) : Option AssertionKind :=
  let name := Text.replaceChars ['-', '_'] ' ' (Text.lower (Text.trim typed))
  all.find? (·.key = name)

end AssertionKind

end Cuesheet
