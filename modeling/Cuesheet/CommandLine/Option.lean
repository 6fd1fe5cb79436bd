import Cuesheet.CommandLine.Usage

/-!
Reading arguments by a list of options.

An option has a long name, mostly a letter too, and may take a value: attached to the name or letter
or in the next argument. Letters without values can be written together. Behind a bare pair of hyphens
every argument stands for itself.

Each option is told its value when the next option or word comes, or the arguments end, so an argument
that is unknown is reported before a wrong value in front of it.
-/

namespace Cuesheet.CommandLine

/-- An option, and what it does to a command under construction. -/
structure Opt (σ : Type) where
  long : Text
  short : Option Char := none
  /-- Whether the option takes a value. -/
  takesValue : Bool
  /-- What the option does; without a value the text is empty. -/
  apply : σ → Text → Except Usage σ

/-- What a command is made of. -/
structure Grammar (σ : Type) where
  options : List (Opt σ)
  /-- What a word does to the command, if it can have words. -/
  word : Option (σ → Text → σ) := none
  /-- What is wrong with a word, if it cannot. -/
  stray : (afterHyphens : Bool) → Text → Usage := fun _ _ => .unknownArgument

/-- The state between two arguments. -/
structure Intake (σ : Type) where
  command : σ
  /-- The last option that takes a value, with the value once there is one. -/
  pending : Option (Opt σ × Option Text) := none
  /-- Whether a bare pair of hyphens has come. -/
  afterHyphens : Bool := false

namespace Intake

variable {σ : Type}

/-- The command once the last option has been told its value. -/
def settle (s : Intake σ) : Except Usage σ :=
  match s.pending with
  | none => .ok s.command
  | some (_, none) => .error .invalidValue
  | some (o, some value) => o.apply s.command value

def awaitsValue (s : Intake σ) : Bool := s.pending.any (·.2.isNone)

/-- The state after an option, with the value attached to it if one is. -/
def option (s : Intake σ) (o : Opt σ) (attached : Option Text) : Except Usage (Intake σ) := do
  let command ← s.settle
  match o.takesValue, attached with
  | true, none => return { s with command, pending := some (o, none) }
  | true, some value => return { s with command := ← o.apply command value, pending := none }
  | false, _ => return { s with command := ← o.apply command [], pending := none }

/-- The state after some letters, of which the last may have its value attached. -/
def letters (g : Grammar σ) : Intake σ → Text → Except Usage (Intake σ)
  | s, [] => .ok s
  | s, c :: t =>
    match g.options.find? (·.short = some c) with
    | none => .error .unknownArgument
    | some o =>
      if o.takesValue then
        match t with
        | [] => s.option o none
        | '=' :: value => s.option o (some value)
        | value => s.option o (some value)
      else do letters g (← s.option o none) t

/-- The state after a name, behind its hyphens. -/
def name (g : Grammar σ) (s : Intake σ) (t : Text) : Except Usage (Intake σ) :=
  let long := t.takeWhile (· ≠ '=')
  let attached := match t.dropWhile (· ≠ '=') with
    | [] => none
    | _ :: value => some value
  match g.options.find? (·.long = long) with
  | none => .error .unknownArgument
  | some o =>
    if attached.isSome && !o.takesValue then .error .unwantedValue else s.option o attached

def word (g : Grammar σ) (s : Intake σ) (t : Text) : Except Usage (Intake σ) :=
  match g.word with
  | none => .error (g.stray s.afterHyphens t)
  | some use => do
    let command ← s.settle
    return { s with command := use command t, pending := none }

def argument (g : Grammar σ) (s : Intake σ) (t : Text) : Except Usage (Intake σ) :=
  if s.afterHyphens then s.word g t
  else
    match t with
    | ['-', '-'] => .ok { s with afterHyphens := true }
    | '-' :: '-' :: t => s.name g t
    | '-' :: c :: t => s.letters g (c :: t)
    | t =>
      match s.pending with
      | some (o, none) => .ok { s with pending := some (o, some t) }
      | _ => s.word g t

end Intake

/-- The command that some arguments make. -/
def Grammar.read {σ : Type} (g : Grammar σ) (start : σ) (arguments : List Text) : Except Usage σ := do
  let s ← arguments.foldlM (Intake.argument g) { command := start }
  s.settle

end Cuesheet.CommandLine
