import Cuesheet.Instruction
import Cuesheet.Target.Catalog

/-!
Saying a clause in a framework's dialect.

A clause may have no code: a disjunction of fewer than two sayable alternatives, or a phrase whose
condition is no check. A disjunction is never enforced, only listed in a comment. A condition is the
code of its checks with the statements' ends taken off, joined by "and".
-/

namespace Cuesheet

/-- Code that states checks, as one expression: its lines without outer blanks and closing
semicolons, joined by "and". -/
def conditionOf (code : Text) : Text :=
  let checks := (Text.lines code).map fun line =>
    Text.trimEnd ((Text.trim line).reverse.dropWhile (· = ';')).reverse
  Text.join " && " (checks.filter (· ≠ []))

/-- The line above the alternatives of a disjunction. -/
def alternativesHeader : Text := "// At least one of the following should pass:"

/-- Alternatives listed in a comment, line by line. -/
def alternativesComment (alternatives : List Text) : Text :=
  Text.stack
    (alternativesHeader :: (alternatives.flatMap Text.lines).map ("//   " ++ ·))

namespace Clause

mutual

/-- The code of a clause about an element, if it has any. -/
def render (d : Dialect) (e : Element) : Clause → Option Text
  | predicate check => some (d.check e check)
  | conjunction parts =>
    match renderAll d e parts with
    | [] => none
    | codes => some (Text.stack codes)
  | disjunction parts =>
    match renderAll d e parts with
    | [] | [_] => none
    | codes => some (alternativesComment codes)
  | conditional condition action wording =>
    if condition.isCheck then
      (condition.render d e).map fun code =>
        d.conditional (conditionOf code) ((renderPart d e action).getD wording)
    else none
  | wait milliseconds what => some (d.wait e milliseconds what)
  | retryUntil condition wording =>
    if condition.all isCheck then
      some (d.retryUntil ((renderPart d e condition).map conditionOf) wording)
    else none
  | report message none => some (d.report message none)
  | report message (some condition) =>
    if condition.isCheck then
      (condition.render d e).map fun code => d.report message (some (conditionOf code))
    else none
  | onFailure handler => some (d.onFailure handler)

/-- The codes of those clauses that have one, in order. -/
def renderAll (d : Dialect) (e : Element) : List Clause → List Text
  | [] => []
  | part :: parts =>
    match part.render d e with
    | none => renderAll d e parts
    | some code => code :: renderAll d e parts

/-- The code of a part, if there is one and it has any. -/
def renderPart (d : Dialect) (e : Element) : Option Clause → Option Text
  | none => none
  | some part => part.render d e

end

/-- The code of a clause for a framework, if it has any. -/
def renderFor (f : Framework) (e : Element) (c : Clause) : Option Text :=
  f.dialect.bind fun d => c.render d e

end Clause

/-- The code of an instruction about an element for a framework, if the instruction is understood
within the ceiling and has code. -/
def Instruction.compile (ceiling : Nat) (f : Framework) (e : Element) (instruction : Text) :
    Option Text :=
  (Instruction.read ceiling instruction).bind (Clause.renderFor f e)

end Cuesheet
