import Cuesheet.Dictionary
import Cuesheet.FileTree.Path

/-!
Trees of files, and what is read from them and written to them.

Every file and directory has one place: the names that lead to it from the root. A path is followed
from the root or from the directory that is current, step by step, and every step but the last has to
come to a directory. An operation that fails may have changed the tree before: making a directory
makes those around it first.
-/

namespace Cuesheet

/-- Why a file cannot be read or written. -/
inductive FileError where
  | notFound
  | isADirectory
  | notADirectory
  | alreadyExists
  /-- What is in the file is no text. -/
  | invalidData
  deriving DecidableEq, Repr, Inhabited

/-- What is at a place. -/
inductive FileEntry where
  | directory
  /-- A file with its text, if it holds one. -/
  | file (content : Option Text)
  deriving DecidableEq, Repr, Inhabited

/-- The names that lead somewhere from the root. -/
abbrev Place := List Text

structure FileTree where
  /-- What is at each place but the root, which is a directory. -/
  entries : Dictionary Place FileEntry := ∅
  /-- The place of the current directory. -/
  current : Place := []
  deriving DecidableEq, Inhabited

namespace FileTree

def entry? (t : FileTree) (place : Place) : Option FileEntry :=
  if place = [] then some .directory else t.entries.get? place

/-- The tree with something at a place. -/
def put (t : FileTree) (place : Place) (e : FileEntry) : FileTree :=
  { t with entries := t.entries.insert place e }

/-! ### Following paths -/

/-- The place one step away from a place, which has to be a directory. -/
def enter (t : FileTree) (place : Place) (step : Text) : Except FileError Place :=
  match t.entry? place with
  | none => .error .notFound
  | some (.file _) => .error .notADirectory
  | some .directory =>
    if step = Path.here then .ok place
    else if step = Path.back then .ok place.dropLast
    else .ok (place ++ [step])

/-- The place that some steps lead to. -/
def follow (t : FileTree) (place : Place) : List Text → Except FileError Place
  | [] => .ok place
  | step :: steps => do
    let next ← t.enter place step
    t.follow next steps

/-- Where a path starts. -/
def start (t : FileTree) (p : Path) : Place := if p.isAbsolute then [] else t.current

/-- The place that a path leads to; there may be nothing yet. -/
def locate (t : FileTree) (p : Path) : Except FileError Place := t.follow (t.start p) p.steps

def isDirectory (t : FileTree) (p : Path) : Bool :=
  match t.locate p with
  | .error _ => false
  | .ok place => t.entry? place = some .directory

def read (t : FileTree) (p : Path) : Except FileError Text := do
  match t.entry? (← t.locate p) with
  | none => .error .notFound
  | some .directory => .error .isADirectory
  | some (.file content) =>
    if p.asksDirectory then .error .notADirectory
    else
      match content with
      | none => .error .invalidData
      | some text => .ok text

/-! ### Changes -/

/-- What changes a tree, and may fail on the way. -/
abbrev Change (α : Type) := ExceptT FileError (StateM FileTree) α

/-- Makes a directory inside one that is there. -/
def makeDirectory (p : Path) : Change Unit := do
  let t ← get
  let place ← liftExcept (t.locate p)
  if (t.entry? place).isSome then throw .alreadyExists
  else set (t.put place .directory)
where
  /-- An outcome without a change. -/
  liftExcept {α : Type} : Except FileError α → Change α
    | .ok a => return a
    | .error e => throw e

/-- Makes a directory and those around it that are missing, given the steps to it in reverse. -/
def makeAlong (isAbsolute : Bool) : (reversed : List Text) → Change Unit
  | [] => return
  | step :: outer => do
    let p : Path := ⟨isAbsolute, (step :: outer).reverse, false⟩
    let settle (e : FileError) : Change Unit := do
      if (← get).isDirectory p then return else throw e
    try makeDirectory p
    catch
      | .notFound => do
        makeAlong isAbsolute outer
        try makeDirectory p catch e => settle e
      | e => settle e

/-- Makes a directory and those around it that are missing. -/
def makeDirectories (p : Path) : Change Unit := makeAlong p.isAbsolute p.steps.reverse

/-- Writes a text to the file that a path leads to, which need not be there. -/
def write (p : Path) (text : Text) : Change Unit := do
  let t ← get
  match t.locate p with
  | .error e => throw e
  | .ok place =>
    if p.asksDirectory || t.entry? place = some .directory then throw .isADirectory
    else set (t.put place (.file (some text)))

/-- The entries of a tree that another lacks or holds otherwise. -/
def changesSince (t before : FileTree) : List (Place × FileEntry) :=
  t.entries.entries.filter fun e => before.entry? e.1 ≠ some e.2

end FileTree

end Cuesheet
