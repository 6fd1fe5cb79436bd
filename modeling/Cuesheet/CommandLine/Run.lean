import Cuesheet.CommandLine.Report
import Cuesheet.Document.Recording
import Cuesheet.Document.Review
import Cuesheet.Document.Settings.Format
import Cuesheet.FileTree
import Cuesheet.Script

/-!
Running a command.

A run reads and changes a tree of files and prints. The command that writes a script loads the
recording, then the review, then the settings, and does nothing else before all are loaded but tell
about the review.
-/

namespace Cuesheet.CommandLine

/-- What a file is loaded as. -/
inductive DocumentKind where
  | actions
  | review
  | config
  deriving DecidableEq, Repr, Inhabited

def DocumentKind.name : DocumentKind → Text
  | actions => "actions"
  | review => "review"
  | config => "config"

/-- Why a run fails. -/
inductive Failure where
  | file (e : FileError)
  /-- The file at a path is no such document in the format. -/
  | document (kind : DocumentKind) (path : Text) (format : Document.Format)
  | notUnderstood (instruction : Text)
  deriving DecidableEq, Repr, Inhabited

structure World where
  files : FileTree
  /-- What was printed on standard output. -/
  output : Text := []
  /-- What was printed on standard error. -/
  messages : Text := []
  deriving DecidableEq, Inhabited

/-- Part of a run, which may fail. -/
abbrev Run (α : Type) := ExceptT Failure (StateM World) α

namespace Run

/-- Prints a text on standard output, with a line feed behind it. -/
def print (t : Text) : Run Unit := modify fun w => { w with output := w.output ++ t ++ "\n" }

def tell (style : ReportStyle) (tone : Tone) (message : Text) : Run Unit :=
  modify fun w => { w with messages := w.messages ++ style.line tone message }

def change {α : Type} (c : FileTree.Change α) : Run α := do
  let w ← get
  let (outcome, files) := c.run.run w.files
  set { w with files }
  match outcome with
  | .ok a => return a
  | .error e => throw (.file e)

end Run

/-! ### Loading -/

def readFile (files : FileTree) (path : Text) : Except Failure Text :=
  (files.read (.ofText path)).mapError .file

/-- The value that the JSON file at a path says. -/
def loadJson {α : Type} (files : FileTree) (kind : DocumentKind) (d : Json.Decoder α)
    (path : Text) : Except Failure α := do
  match Json.decode d (← readFile files path) with
  | .ok a => return a
  | .error _ => throw (.document kind path .json)

def loadRecording (files : FileTree) (path : Text) : Except Failure Recording :=
  loadJson files .actions Document.recording path

/-- The review in the file at a path, if there is a path, and else the one without edits. -/
def loadReview (files : FileTree) : Option Text → Except Failure Review
  | none => .ok {}
  | some path => loadJson files .review Document.review path

/-- The settings in the file at a path, whose extension tells the format. -/
def loadSettings (files : FileTree) (path : Text) : Except Failure UserSettings := do
  let text ← readFile files path
  let format := Document.Format.ofExtension ((Path.ofText path).extension?.getD [])
  match Document.readSettings format text with
  | .ok u => return u
  | .error _ => throw (.document .config path format)

def loadSettings? (files : FileTree) : Option Text → Except Failure (Option UserSettings)
  | none => .ok none
  | some path => some <$> loadSettings files path

/-! ### Writing -/

/-- Where a script goes that is sent to a path: in a directory it gets its usual name. -/
def scriptPath (files : FileTree) (destination : Text) : Text :=
  if files.isDirectory (.ofText destination) then Path.join destination Script.defaultName
  else destination

/-- Writes a script to a path, and the directories around it that are missing. Gives the path of the
file. -/
def deliver (destination script : Text) : FileTree.Change Text := do
  let path := scriptPath (← get) destination
  match (Path.ofText path).parent? with
  | none => pure ()
  | some parent => FileTree.makeDirectories parent
  FileTree.write (.ofText path) script
  return path

/-! ### Commands -/

/-- Where the command that writes a script sends it. -/
def GenerateCommand.destination (c : GenerateCommand) : Text := c.output.getD Script.defaultName

/-- The review of a command: that of its file, with the selection of the command line in place of its
own if there is one. -/
def GenerateCommand.review? (c : GenerateCommand) (files : FileTree) : Except Failure Review := do
  let r ← loadReview files c.review
  match c.selection with
  | none => return r
  | some indexes => return r.keepOnly indexes

def GenerateCommand.run (c : GenerateCommand) (i : Invocation) (toTerminal : Bool) : Run Unit := do
  let style := i.reportStyle toTerminal
  let files := (← get).files
  let recording ← loadRecording files c.recording
  let review ← c.review? files
  let beyond := review.placesBeyond recording.actions.length
  if beyond ≠ [] then
    Run.tell style .warning
      ("Review mentions actions missing from the recording: " ++
        Text.join ", " (beyond.map Text.ofNat))
  let actions := review.apply recording.actions
  let count := Text.ofNat actions.length
  if i.verbosity.isVerbose then
    Run.tell style .info
      ("Kept " ++ count ++ " of " ++ Text.ofNat recording.actions.length ++ " recorded action(s)")
  let settings ← loadSettings? files c.settings
  if settings.isNone then
    Run.tell style .info "No configuration given; emitting a literal DOM script"
  let script := Script.generate settings actions
  if c.prints then Run.print script
  else
    let path ← Run.change (deliver c.destination script)
    Run.tell style .success ("Wrote " ++ count ++ " action(s) to " ++ path)

def CompileCommand.run (c : CompileCommand) : Run Unit := do
  let instruction := Text.join " " c.instruction
  let locator := c.locator.getD (Locator.resolve c.framework ∅ c.selector)
  match Instruction.compile Instruction.defaultCeiling c.framework
      { selector := c.selector, locator } instruction with
  | some code => Run.print code
  | none => throw (.notUnderstood instruction)

/-- The settings that a command shows. -/
def TemplatesCommand.settings? (c : TemplatesCommand) (files : FileTree) :
    Except Failure Settings := do
  let user := (← loadSettings? files c.settings).getD {}
  match c.framework with
  | none => return user.resolve
  | some f => return { user with framework := some f.name : UserSettings }.resolve

def TemplatesCommand.run (c : TemplatesCommand) : Run Unit := do
  let settings ← c.settings? (← get).files
  Run.print (Document.ofSettings settings).spread

def Invocation.run (i : Invocation) (toTerminal : Bool) : Run Unit :=
  match i.command with
  | .generate c => c.run i toTerminal
  | .compile c => c.run
  | .templates c => c.run

/-! ### Failures -/

def formatName : Document.Format → Text
  | .json => "JSON"
  | .yaml => "YAML"

def fileErrorText : FileError → Text
  | .notFound => "entity not found"
  | .isADirectory => "is a directory"
  | .notADirectory => "not a directory"
  | .alreadyExists => "entity already exists"
  | .invalidData => "invalid data"

def Failure.message : Failure → Text
  | file e => "I/O error: " ++ fileErrorText e
  | document kind path format =>
    "Invalid " ++ kind.name ++ " file " ++ path ++ ": " ++ formatName format ++ " error"
  | notUnderstood instruction => "Instruction not understood: " ++ instruction

/-- The outcome of a command line in a tree of files, and the state it leaves. -/
def Invocation.outcome (i : Invocation) (toTerminal : Bool) (files : FileTree) :
    Except Failure Unit × World :=
  (i.run toTerminal).run.run { files }

end Cuesheet.CommandLine
