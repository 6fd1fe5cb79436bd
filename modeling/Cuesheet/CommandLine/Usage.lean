import Cuesheet.Text

/-!
How a command line ends before anything is run.
-/

namespace Cuesheet.CommandLine

/-- Why nothing is run: help or the version is asked for, or the arguments are wrong. -/
inductive Usage where
  | help
  /-- The version of the program is asked for, under the given name. -/
  | version (name : Text)
  /-- There are no arguments, so help is shown. -/
  | helpForLackOfArguments
  | missingSubcommand
  | missingRequiredArgument
  | unknownArgument
  | unknownSubcommand
  /-- An option has no value, or none of those it can have. -/
  | invalidValue
  /-- A value of an option cannot be read. -/
  | unreadableValue
  /-- A value is attached to an option that takes none. -/
  | unwantedValue
  /-- Arguments exclude each other, or one that can be given once is given again. -/
  | conflict
  deriving DecidableEq, Repr, Inhabited

def version : Text := "0.4.0"

/-- The status with which the program ends. -/
def Usage.status : Usage → Nat
  | help | version _ => 0
  | _ => 2

/-- What a version is shown as. -/
def Usage.output : Usage → Text
  | version name => name ++ " " ++ CommandLine.version ++ "\n"
  | _ => []

end Cuesheet.CommandLine
