import Cuesheet.Text.Line

/-!
Code shapes that several frameworks share.
-/

namespace Cuesheet.Target

/-- A comment that stands for trying again until an expression holds. -/
def retryComment (condition : Text) : Text :=
  "// Retry logic: while (!(await (" ++ condition ++ "))) \x7b /* retry */ \x7d"

/-- A block that runs the action when the condition holds. -/
def ifBlock (condition action : Text) : Text :=
  "if (" ++ condition ++ ") \x7b\n" ++ Text.indent action ++ "\n\x7d"

/-- A block that runs the handler when an assertion fails. -/
def tryBlock (handler : Text) : Text :=
  "try \x7b\n  // assertion\n\x7d catch (e) \x7b\n" ++ Text.indent handler ++ "\n\x7d"

/-- A message logged by the function `log`, under a condition where there is one. -/
def logLine (log message : Text) : Option Text → Text
  | none => log ++ "('" ++ message ++ "');"
  | some condition => "if (" ++ condition ++ ") \x7b " ++ log ++ "('" ++ message ++ "'); \x7d"

end Cuesheet.Target
