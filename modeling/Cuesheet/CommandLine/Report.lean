import Cuesheet.CommandLine.Command

/-!
Messages to the user.

A message stands behind a word or a symbol that says what kind it is. Whoever wants quiet is told of
failures alone.
-/

namespace Cuesheet.CommandLine

/-- What a message is about. -/
inductive Tone where
  | success
  | warning
  | info
  | failure
  deriving DecidableEq, Repr, Inhabited

namespace Tone

def word : Tone → Text
  | success => "OK"
  | warning => "WARN"
  | info => "INFO"
  | failure => "FAIL"

def symbol : Tone → Text
  | success => "✓"
  | warning => "⚠"
  | info => "ℹ"
  | failure => "✗"

end Tone

/-- How messages are told. -/
structure ReportStyle where
  /-- Whether symbols stand in place of words. -/
  symbols : Bool
  quiet : Bool
  deriving DecidableEq, Repr, Inhabited

/-- What is printed for a message. -/
def ReportStyle.line (style : ReportStyle) (tone : Tone) (message : Text) : Text :=
  if style.quiet && tone ≠ .failure then []
  else (if style.symbols then tone.symbol else tone.word) ++ " " ++ message ++ "\n"

/-- Whether symbols are used, given whether messages go to a terminal. -/
def Color.usesSymbols (toTerminal : Bool) : Color → Bool
  | auto => toTerminal
  | always => true
  | never => false

def Verbosity.isQuiet (v : Verbosity) : Bool := v = .quiet

def Verbosity.isVerbose (v : Verbosity) : Bool := v = .verbose || v = .debug

/-- Which events are logged at a verbosity. -/
def Verbosity.logFilter : Verbosity → Text
  | quiet => "error"
  | normal => "warn"
  | verbose => "scriptsmith=debug,warn"
  | debug => "scriptsmith=trace,debug"

/-- How the messages of a command line are told. -/
def Invocation.reportStyle (i : Invocation) (toTerminal : Bool) : ReportStyle where
  symbols := i.color.usesSymbols toTerminal
  quiet := i.verbosity.isQuiet

end Cuesheet.CommandLine
