import Cuesheet.Instruction.Separator
import Cuesheet.Instruction.Phrase
import Cuesheet.Text.Lowercase

/-!
Reading an instruction.

An instruction is trimmed and lower-cased, then offered to each pattern in a fixed order. A pattern
passes the text on, claims it, or claims it and finds its operands not understood; the first claim
decides. Operands are instructions of their own, read one level further down, and below the ceiling
nothing is understood.

A check may follow a noun phrase (`button text ends with '!'`), except where a compound phrase owns
the text: `report 'x' if text starts with 'y'` is a report and not the check inside it. The compound
phrases `if`, `retry until`, `report` and `on failure` lead their text; a wait may stand anywhere.
-/

namespace Cuesheet

namespace Instruction

/-- What a pattern makes of a text. -/
inductive Claim where
  /-- The pattern does not apply. -/
  | pass
  /-- The pattern applies and gives a clause. -/
  | clause (c : Clause)
  /-- The pattern applies, but an operand is not understood. -/
  | reject
  deriving Repr, Inhabited

/-- The patterns an instruction can follow. -/
inductive Pattern where
  | conjunction
  | disjunction
  | check (comparison : Comparison)
  | nthChild
  | conditional
  | wait
  | retryUntil
  | report
  | onFailure
  deriving DecidableEq, Repr, Inhabited

namespace Pattern

/-- The patterns in the order in which they are tried. -/
def order : List Pattern :=
  [conjunction, disjunction, check .notContains, check .startsWith, check .endsWith, nthChild,
    conditional, wait, retryUntil, report, onFailure]

def name : Pattern → Text
  | conjunction => "conjunction"
  | disjunction => "disjunction"
  | check .notContains => "not-contains"
  | check .startsWith => "starts-with"
  | check .endsWith => "ends-with"
  | nthChild => "nth-child"
  | conditional => "conditional"
  | wait => "wait"
  | retryUntil => "retry-until"
  | report => "report"
  | onFailure => "on-failure"

end Pattern

/-- Whether a compound phrase or a wait owns the checks in the text. -/
def isCompound (t : Text) : Bool := hasCompoundLead t || (wait? t).isSome

/-- Numbers of children are below this. -/
def childBound : Nat := Nat.pow 2 32

/-- Times are below this, in whichever unit they are given. -/
def timeBound : Nat := Nat.pow 2 64

/-- A clause read from an optional operand: none is none, and one not understood rejects. -/
def optionalOperand (read : Text → Option Clause) (build : Option Clause → Clause) :
    Option Text → Claim
  | none => .clause (build none)
  | some operand =>
    match read operand with
    | none => .reject
    | some c => .clause (build (some c))

/-- What a pattern makes of a trimmed lower-case text, with `read` for its operands. -/
def Pattern.claim (read : Text → Option Clause) (t : Text) : Pattern → Claim
  | .conjunction =>
    match splitAt? "and" t with
    | none => .pass
    | some parts =>
      match parts.filterMap read with
      | [] => .reject
      | clauses => .clause (.conjunction clauses)
  | .disjunction =>
    match splitAt? "or" t with
    | none => .pass
    | some parts =>
      match parts.filterMap read with
      | [] | [_] => .pass
      | clauses => .clause (.disjunction clauses)
  | .check comparison =>
    if isCompound t then .pass
    else
      match comparison? comparison t with
      | none => .pass
      | some (subject, value) => .clause (.predicate (.compares subject comparison value))
  | .nthChild =>
    if isCompound t then .pass
    else
      match nthChild? t with
      | none => .pass
      | some digits =>
        match Text.numeralBelow? childBound digits with
        | none => .reject
        | some n => .clause (.predicate (.nthChild n))
  | .conditional =>
    match conditional? t with
    | none => .pass
    | some (condition, action) =>
      match read condition with
      | none => .reject
      | some c =>
        let wording := Text.trim action
        .clause (.conditional c (read wording) wording)
  | .wait =>
    if hasCompoundLead t then .pass
    else
      match wait? t with
      | none => .pass
      | some (digits, unit, what) =>
        match Text.numeralBelow? timeBound digits with
        | none => .reject
        | some n => .clause (.wait (min (n * unit) (timeBound - 1)) (Text.trim what))
  | .retryUntil =>
    match retryUntil? t with
    | none => .pass
    | some condition =>
      let wording := Text.trim condition
      .clause (.retryUntil (read wording) wording)
  | .report =>
    match report? t with
    | none => .pass
    | some (message, condition) => optionalOperand read (.report message) condition
  | .onFailure =>
    match onFailure? t with
    | none => .pass
    | some handler => .clause (.onFailure (Text.trim handler))

/-- The clause of the first pattern that claims the text. -/
def firstClaim (read : Text → Option Clause) (t : Text) : List Pattern → Option Clause
  | [] => none
  | p :: patterns =>
    match p.claim read t with
    | .pass => firstClaim read t patterns
    | .clause c => some c
    | .reject => none

/-- The clause an instruction says, if it is understood within `ceiling` levels of nesting. -/
def read (ceiling : Nat) (instruction : Text) : Option Clause :=
  match ceiling with
  | 0 => none
  | below + 1 =>
    let t := Text.lower (Text.trim instruction)
    if t = [] then none else firstClaim (read below) t Pattern.order

/-- The levels of nesting allowed where nothing else is said. -/
def defaultCeiling : Nat := 16

end Instruction

end Cuesheet
