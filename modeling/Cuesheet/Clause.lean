import Cuesheet.Text

/-!
What an instruction says.

A `Clause` is the meaning of an instruction, free of any test framework: single checks of one
element (`Predicate`), and phrases built from other clauses. Texts kept in a clause are pieces of the
instruction. `depth` measures nesting, and `isCheck` singles out the clauses that can stand as a
condition.
-/

namespace Cuesheet

/-- What a check reads from the element. -/
inductive Subject where
  /-- The text it shows. -/
  | text
  /-- The value of a form field. -/
  | value
  /-- An attribute, by name. -/
  | attribute (name : Text)
  deriving DecidableEq, Repr, Inhabited

def Subject.phrase : Subject → Text
  | .text => "text"
  | .value => "value"
  | .attribute name => "attribute " ++ name

/-- How a check compares what it reads with a value. -/
inductive Comparison where
  /-- The value does not occur in it. -/
  | notContains
  /-- It starts with the value. -/
  | startsWith
  /-- It ends with the value. -/
  | endsWith
  deriving DecidableEq, Repr, Inhabited

def Comparison.phrase : Comparison → Text
  | .notContains => "does not contain"
  | .startsWith => "starts with"
  | .endsWith => "ends with"

/-- A single check of one element. -/
inductive Predicate where
  /-- What the element shows in `subject` compares with `value` as said. -/
  | compares (subject : Subject) (comparison : Comparison) (value : Text)
  /-- The element is the `n`-th child of its parent, counted from one. -/
  | nthChild (n : Nat)
  deriving DecidableEq, Repr, Inhabited

/-- The meaning of an instruction. -/
inductive Clause where
  /-- A single check. -/
  | predicate (check : Predicate)
  /-- All parts hold. -/
  | conjunction (parts : List Clause)
  /-- Some part holds. -/
  | disjunction (parts : List Clause)
  /-- If the condition holds, the action is done. The action is kept as worded too, for where its
  words are no instruction. -/
  | conditional (condition : Clause) (action : Option Clause) (wording : Text)
  /-- Something is waited for, up to a number of milliseconds. -/
  | wait (milliseconds : Nat) (what : Text)
  /-- The step is tried again until the condition holds. The condition is kept as worded too. -/
  | retryUntil (condition : Option Clause) (wording : Text)
  /-- A message is logged, if the condition holds where there is one. -/
  | report (message : Text) (condition : Option Clause)
  /-- The handler is run when a step fails. -/
  | onFailure (handler : Text)
  deriving Repr, Inhabited

namespace Clause

/-- The name of the kind of clause. -/
def kind : Clause → Text
  | predicate _ => "predicate"
  | conjunction _ => "conjunction"
  | disjunction _ => "disjunction"
  | conditional .. => "conditional"
  | wait .. => "wait"
  | retryUntil .. => "retry-until"
  | report .. => "report"
  | onFailure _ => "on-failure"

def isPredicate : Clause → Bool
  | predicate _ => true
  | _ => false

/-- Whether the clause can stand as a condition: it is a single check, or joins single checks. -/
def isCheck : Clause → Bool
  | predicate _ => true
  | conjunction parts => !parts.isEmpty && parts.all isPredicate
  | _ => false

mutual

/-- How deep the clause nests; a clause without parts has depth one. -/
def depth : Clause → Nat
  | predicate _ | wait .. | onFailure _ => 1
  | conjunction parts | disjunction parts => depthOfParts parts + 1
  | conditional condition action _ => max condition.depth (depthOfPart action) + 1
  | retryUntil condition _ | report _ condition => depthOfPart condition + 1

def depthOfParts : List Clause → Nat
  | [] => 0
  | part :: parts => max part.depth (depthOfParts parts)

def depthOfPart : Option Clause → Nat
  | none => 0
  | some part => part.depth

end

end Clause

end Cuesheet
