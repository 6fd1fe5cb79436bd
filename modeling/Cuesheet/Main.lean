import Cuesheet.CommandLine.Run

/-!
The program.

The files that a command line names are read into a tree, the command runs on the tree, and what it
changed there is written back.
-/

namespace Cuesheet.CommandLine

/-- The paths that a command reads or writes. -/
def Command.paths : Command → List Text
  | .generate c =>
    c.recording :: c.review.toList ++ c.settings.toList ++
      [c.destination, Path.join c.destination Script.defaultName]
  | .compile _ => []
  | .templates c => c.settings.toList

/-- The places that some steps pass on the way. -/
def passed : Place → List Text → List Place
  | _, [] => []
  | place, step :: steps =>
    let next :=
      if step = Path.here then place
      else if step = Path.back then place.dropLast
      else place ++ [step]
    next :: passed next steps

/-- A place as a path from the root. -/
def absolutePath (place : Place) : String :=
  String.ofList ("/" ++ Text.join "/" place)

/-- The tree with what is at a place. -/
def survey (tree : FileTree) (place : Place) : IO FileTree := do
  try
    let path := (← IO.currentDir) / absolutePath place
    if ← path.isDir then return tree.put place .directory
    else if ← path.pathExists then
      let bytes ← IO.FS.readBinFile path
      return tree.put place (.file ((String.fromUTF8? bytes).map String.toList))
    else return tree
  catch _ => return tree

/-- The tree of what is at the places that some paths pass. -/
def surveyAll (paths : List Text) : IO FileTree := do
  let current := (Path.ofText (← IO.currentDir).toString.toList).steps
  let tree : FileTree := { current }
  let around := passed [] current
  let along := paths.flatMap fun t =>
    let p := Path.ofText t
    passed (tree.start p) p.steps
  (around ++ along).foldlM survey tree

/-- Puts a change of a tree into effect. -/
def carryOut (place : Place) (e : FileEntry) : IO Unit :=
  match e with
  | .directory => IO.FS.createDir (absolutePath place)
  | .file content => IO.FS.writeFile (absolutePath place) (String.ofList (content.getD []))

/-- Runs a command line, and gives the status with which the program ends. -/
def perform (i : Invocation) : IO UInt32 := do
  let toTerminal ← (← IO.getStderr).isTty
  let tree ← surveyAll i.command.paths
  let (outcome, world) := i.outcome toTerminal tree
  for (place, e) in world.files.changesSince tree do carryOut place e
  (← IO.getStdout).putStr (String.ofList world.output)
  let err ← IO.getStderr
  err.putStr (String.ofList world.messages)
  match outcome with
  | .ok _ => return 0
  | .error f =>
    let style : ReportStyle := { symbols := i.color.usesSymbols toTerminal, quiet := false }
    err.putStr (String.ofList (style.line .failure ("Error: " ++ f.message)))
    return 1

end Cuesheet.CommandLine

open Cuesheet.CommandLine in
def main (arguments : List String) : IO UInt32 := do
  match Invocation.ofArguments (arguments.map String.toList) with
  | .ok i => perform i
  | .error u => do
    (← IO.getStdout).putStr (String.ofList u.output)
    return u.status.toUInt32
