import Cuesheet.Clause
import Cuesheet.Template

/-!
What a framework's scripts look like.

A `Target` is the frame of a script and its table of templates, with a `Dialect` where the framework
can say instructions. A dialect has one code shape per construct; it is told everything it puts into
the code, and takes texts as they are unless it says otherwise.
-/

namespace Cuesheet

/-- The element an instruction is about. -/
structure Element where
  /-- The selector it was recorded with. -/
  selector : Text
  /-- The expression that locates it. -/
  locator : Text
  deriving DecidableEq, Repr, Inhabited

/-- How a framework says the constructs of an instruction. -/
structure Dialect where
  /-- A subject compared with a value. -/
  compares : Element → Subject → Comparison → (value : Text) → Text
  /-- The element is the `n`-th child of its parent. -/
  nthChild : Element → (n : Nat) → Text
  /-- An action under a condition, which is an expression. -/
  conditional : (condition action : Text) → Text
  /-- A wait of some milliseconds. -/
  wait : Element → (milliseconds : Nat) → (what : Text) → Text
  /-- A step tried again until a condition holds; without an expression for it there is its wording. -/
  retryUntil : (condition : Option Text) → (wording : Text) → Text
  /-- A message logged, under a condition where there is one. -/
  report : (message : Text) → (condition : Option Text) → Text
  /-- Code run when a step fails. -/
  onFailure : (handler : Text) → Text

/-- How a framework says a single check. -/
def Dialect.check (d : Dialect) (e : Element) : Predicate → Text
  | .compares subject comparison value => d.compares e subject comparison value
  | .nthChild n => d.nthChild e n

/-- The scripts of a framework. -/
structure Target where
  /-- The lines before the first step. -/
  header : List Text
  /-- The lines after the last step. -/
  footer : List Text
  /-- The templates that settings start from. -/
  templates : TemplateTable
  /-- How instructions are said, if they can be. -/
  dialect : Option Dialect

end Cuesheet
