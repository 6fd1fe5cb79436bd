import Cuesheet.Framework
import Cuesheet.Text.Digit
import Cuesheet.CommandLine.Option

/-!
The command line as a value.

Some options stand in front of the name of a command or behind it; where one is given in both places
the later place counts. Every command can be asked for help and for its version.
-/

namespace Cuesheet.CommandLine

/-- When messages are marked by symbols in place of words. -/
inductive Color where
  /-- If they go to a terminal. -/
  | auto
  | always
  | never
  deriving DecidableEq, Repr, Inhabited

inductive Verbosity where
  /-- Failures only. -/
  | quiet
  | normal
  | verbose
  | debug
  deriving DecidableEq, Repr, Inhabited

/-- A script is written from a recording. Files are given by their paths. -/
structure GenerateCommand where
  recording : Text
  settings : Option Text := none
  review : Option Text := none
  /-- The places to keep, in place of the review's. -/
  selection : Option (List Nat) := none
  output : Option Text := none
  /-- Whether the script is printed and not written. -/
  prints : Bool := false
  deriving DecidableEq, Repr, Inhabited

/-- The code of an instruction is shown. -/
structure CompileCommand where
  framework : Framework := .playwright
  selector : Text := "#target"
  locator : Option Text := none
  /-- The words of the instruction. -/
  instruction : List Text := []
  deriving DecidableEq, Repr, Inhabited

/-- Resolved settings are shown. -/
structure TemplatesCommand where
  framework : Option Framework := none
  settings : Option Text := none
  deriving DecidableEq, Repr, Inhabited

inductive Command where
  | generate (c : GenerateCommand)
  | compile (c : CompileCommand)
  | templates (c : TemplatesCommand)
  deriving DecidableEq, Repr, Inhabited

structure Invocation where
  verbosity : Verbosity
  color : Color
  command : Command
  deriving DecidableEq, Repr, Inhabited

/-! ### Values of options -/

/-- A path, which has a character at least. -/
def pathValue (t : Text) : Except Usage Text := if t = [] then .error .invalidValue else .ok t

/-- A framework, by its exact name. -/
def frameworkValue (t : Text) : Except Usage Framework :=
  match Framework.withName? t with
  | some f => .ok f
  | none => .error .invalidValue

/-- When symbols are used, by its exact name. -/
def colorValue (t : Text) : Except Usage Color :=
  match String.ofList t with
  | "auto" => .ok .auto
  | "always" => .ok .always
  | "never" => .ok .never
  | _ => .error .invalidValue

def commaPieces : Text → List Text
  | [] => [[]]
  | c :: t =>
    match c, commaPieces t with
    | ',', ps => [] :: ps
    | c, p :: ps => (c :: p) :: ps
    | c, [] => [[c]]

/-- A place: a number below `2 ^ 64`, which may have a plus sign. -/
def placeValue (t : Text) : Except Usage Nat :=
  let digits := match t with
    | '+' :: t => t
    | t => t
  match Text.numeralBelow? (Nat.pow 2 64) digits with
  | some n => .ok n
  | none => .error .unreadableValue

def placesValue (t : Text) : Except Usage (List Nat) := (commaPieces t).mapM placeValue

/-! ### Options -/

section Options

variable {σ : Type}

/-- An option that can be given once, with a value. -/
def single {α : Type} (long : Text) (short : Option Char) (given : σ → Option α)
    (value : Text → Except Usage α) (put : σ → α → σ) : Opt σ where
  long := long
  short := short
  takesValue := true
  apply := fun s t => do
    if (given s).isSome then throw .conflict
    return put s (← value t)

/-- An option that can be given once, without a value. -/
def flag (long : Text) (short : Option Char) (given : σ → Bool) (put : σ → σ) : Opt σ where
  long := long
  short := short
  takesValue := false
  apply := fun s _ => if given s then throw .conflict else return put s

/-- The options by which the command of a name is asked for help and its version. -/
def inquiries (name : Text) : List (Opt σ) :=
  [{ long := "help", short := some 'h', takesValue := false, apply := fun _ _ => .error .help },
    { long := "version", short := some 'V', takesValue := false
      apply := fun _ _ => .error (.version name) }]

end Options

/-- The options that stand in front of a command's name or behind it. -/
structure Globals where
  verbose : Nat := 0
  quiet : Bool := false
  color : Option Color := none
  deriving DecidableEq, Repr, Inhabited

namespace Globals

/-- The options that are the same for all commands, in a command that keeps them. -/
def options {σ : Type} (name : Text) (globals : σ → Globals) (put : σ → Globals → σ) :
    List (Opt σ) :=
  [{ long := "verbose", short := some 'v', takesValue := false
     apply := fun s _ => .ok (put s { globals s with verbose := (globals s).verbose + 1 }) },
    flag "quiet" (some 'q') (globals · |>.quiet) fun s => put s { globals s with quiet := true },
    single "color" none (globals · |>.color) colorValue
      fun s c => put s { globals s with color := some c }] ++ inquiries name

def isGiven (g : Globals) : Bool := g.verbose ≠ 0 || g.quiet || g.color.isSome

/-- The options given behind a command's name over those in front of it. -/
def onto (behind front : Globals) : Globals where
  verbose := if behind.verbose = 0 then front.verbose else behind.verbose
  quiet := behind.quiet || front.quiet
  color := behind.color.or front.color

def verbosity (g : Globals) : Verbosity :=
  if g.quiet then .quiet
  else
    match g.verbose with
    | 0 => .normal
    | 1 => .verbose
    | _ => .debug

end Globals

/-! ### Commands -/

def programName : Text := "scriptsmith"

/-- A command under construction with its global options. -/
structure Partial (σ : Type) where
  globals : Globals := {}
  command : σ

/-- The grammar of a command with some options of its own. -/
def commandGrammar {σ : Type} (name : Text) (own : List (Opt (Partial σ)))
    (word : Option (σ → Text → σ)) : Grammar (Partial σ) where
  options := own ++
    Globals.options (programName ++ "-" ++ name) (·.globals) fun s g => { s with globals := g }
  word := word.map fun use s t => { s with command := use s.command t }

structure GenerateDraft where
  recording : Option Text := none
  settings : Option Text := none
  review : Option Text := none
  selection : Option (List Nat) := none
  output : Option Text := none
  prints : Bool := false

def generateGrammar : Grammar (Partial GenerateDraft) :=
  commandGrammar "generate"
    [single "actions" (some 'a') (·.command.recording) pathValue
        fun s x => { s with command.recording := some x },
      single "config" (some 'c') (·.command.settings) pathValue
        fun s x => { s with command.settings := some x },
      single "review" (some 'r') (·.command.review) pathValue
        fun s x => { s with command.review := some x },
      { long := "select", takesValue := true
        apply := fun s t => do
          let places ← placesValue t
          return { s with command.selection := some (s.command.selection.getD [] ++ places) } },
      single "output" (some 'o') (·.command.output) pathValue
        fun s x => { s with command.output := some x },
      flag "stdout" none (·.command.prints) fun s => { s with command.prints := true }]
    none

/-- The command that writes a script. What is written cannot be printed too. -/
def GenerateDraft.finish (d : GenerateDraft) : Except Usage Command :=
  if d.output.isSome && d.prints then .error .conflict
  else
    match d.recording with
    | none => .error .missingRequiredArgument
    | some recording =>
      .ok (.generate {
        recording
        settings := d.settings
        review := d.review
        selection := d.selection
        output := d.output
        prints := d.prints })

structure CompileDraft where
  framework : Option Framework := none
  selector : Option Text := none
  locator : Option Text := none
  instruction : List Text := []

def compileGrammar : Grammar (Partial CompileDraft) :=
  commandGrammar "compile"
    [single "framework" (some 'f') (·.command.framework) frameworkValue
        fun s x => { s with command.framework := some x },
      single "selector" (some 's') (·.command.selector) .ok
        fun s x => { s with command.selector := some x },
      single "locator" (some 'l') (·.command.locator) .ok
        fun s x => { s with command.locator := some x }]
    (some fun d t => { d with instruction := d.instruction ++ [t] })

def CompileDraft.finish (d : CompileDraft) : Except Usage Command :=
  if d.instruction = [] then .error .missingRequiredArgument
  else
    let default : CompileCommand := {}
    .ok (.compile {
      framework := d.framework.getD default.framework
      selector := d.selector.getD default.selector
      locator := d.locator
      instruction := d.instruction })

def templatesGrammar : Grammar (Partial TemplatesCommand) :=
  commandGrammar "templates"
    [single "framework" (some 'f') (·.command.framework) frameworkValue
        fun s x => { s with command.framework := some x },
      single "config" (some 'c') (·.command.settings) pathValue
        fun s x => { s with command.settings := some x }]
    none

/-- The command of some arguments behind its name, and the global options among them. -/
def readCommand {σ : Type} (g : Grammar (Partial σ)) (start : σ)
    (finish : σ → Except Usage Command) (arguments : List Text) :
    Except Usage (Globals × Command) := do
  let s ← g.read { command := start } arguments
  return (s.globals, ← finish s.command)

def commands : List (Text × (List Text → Except Usage (Globals × Command))) :=
  [("generate", readCommand generateGrammar {} GenerateDraft.finish),
    ("compile", readCommand compileGrammar {} CompileDraft.finish),
    ("templates", readCommand templatesGrammar {} fun c => .ok (.templates c))]

def helpName : Text := "help"

def isCommandName (t : Text) : Bool := t = helpName || (commands.map (·.1)).contains t

/-- Help, on a command or on itself. -/
def helpOn : List Text → Usage
  | [] => .help
  | [name] => if isCommandName name then .help else .unknownSubcommand
  | _ => .unknownSubcommand

/-- The grammar of what stands in front of a command's name. -/
def programGrammar : Grammar Globals where
  options := Globals.options programName id fun _ g => g
  stray := fun afterHyphens t =>
    if afterHyphens && isCommandName t then .unknownArgument else .unknownSubcommand

/-- The command line of some arguments, in a state before them. -/
def readProgram : Intake Globals → List Text → Except Usage Invocation
  | s, [] => do
    let front ← s.settle
    throw (if front.isGiven then .missingSubcommand else .helpForLackOfArguments)
  | s, t :: arguments =>
    if s.afterHyphens || s.awaitsValue || !isCommandName t then do
      readProgram (← s.argument programGrammar t) arguments
    else
      match commands.find? (·.1 = t) with
      | none => .error (helpOn arguments)
      | some (_, read) => do
        let (behind, command) ← read arguments
        let globals := behind.onto (← s.settle)
        return {
          verbosity := globals.verbosity
          color := globals.color.getD .auto
          command }

/-- The command line of some arguments. -/
def Invocation.ofArguments (arguments : List Text) : Except Usage Invocation :=
  readProgram { command := {} } arguments

end Cuesheet.CommandLine
