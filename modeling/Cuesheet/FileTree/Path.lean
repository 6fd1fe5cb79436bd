import Cuesheet.Text

/-!
Paths to files.

A path is read as the steps that lead to a file: names with slashes between. One dot stays in place and
two go back. A slash at the front starts at the root, and one at the end asks for a directory.
-/

namespace Cuesheet

/-- A path as the steps that lead along it. -/
structure Path where
  /-- Whether it starts at the root. -/
  isAbsolute : Bool
  steps : List Text
  /-- Whether it ends in a slash. -/
  asksDirectory : Bool
  deriving DecidableEq, Repr, Inhabited

namespace Path

def here : Text := "."

def back : Text := ".."

/-- The pieces of a text between slashes; those before the first and after the last may be empty. -/
def pieces : Text → List Text
  | [] => [[]]
  | '/' :: t => [] :: pieces t
  | c :: t =>
    match pieces t with
    | [] => [[c]]
    | p :: ps => (c :: p) :: ps

def ofText (t : Text) : Path where
  isAbsolute := t.head? = some '/'
  steps := (pieces t).filter (· ≠ [])
  asksDirectory := t.getLast? = some '/'

/-- The steps of a path without those that stay in place, apart from one that a path starts with. -/
def essentialSteps (p : Path) : List Text :=
  match p.isAbsolute, p.steps with
  | false, s :: steps => s :: steps.filter (· ≠ here)
  | _, steps => steps.filter (· ≠ here)

/-- The directory that a path says a file is in, if it says one. -/
def parent? (p : Path) : Option Path :=
  match p.essentialSteps.dropLast with
  | [] => if p.isAbsolute then some ⟨true, [], false⟩ else none
  | steps => some ⟨p.isAbsolute, steps, false⟩

/-- The path to a name in the directory of another path, as a text. -/
def join (directory name : Text) : Text :=
  if directory.getLast? = some '/' then directory ++ name else directory ++ "/" ++ name

def fileName? (p : Path) : Option Text := p.essentialSteps.getLast?.filter fun s => s ≠ here && s ≠ back

/-- What follows the last dot of a name, unless that is its only dot and its first character. -/
def extensionOf? (name : Text) : Option Text :=
  let extension := (name.reverse.takeWhile (· ≠ '.')).reverse
  if extension.length + 1 < name.length then some extension else none

def extension? (p : Path) : Option Text := p.fileName?.bind extensionOf?

end Path

end Cuesheet
