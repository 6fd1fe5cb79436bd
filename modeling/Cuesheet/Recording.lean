import Cuesheet.Assertion

/-!
Recorded actions.

An action is one interaction with an element of the page, with what the reviewer asked to be asserted
after it. The kind of assertion is kept as typed; `Action.assertion?` says what is asked: an unknown
kind counts as presence, and an instruction of blanks as none.
-/

namespace Cuesheet

/-- What kind of thing the user did. -/
inductive InteractionKind where
  | click
  | input
  deriving DecidableEq, Repr, Inhabited

def InteractionKind.name : InteractionKind → Text
  | click => "click"
  | input => "input"

/-- What the user did. -/
inductive Interaction where
  | click
  /-- A value was entered. -/
  | input (value : Text)
  deriving DecidableEq, Repr, Inhabited

/-- The value that was entered, if one was. -/
def Interaction.value? : Interaction → Option Text
  | click => none
  | input value => some value

def Interaction.kind : Interaction → InteractionKind
  | click => .click
  | input _ => .input

structure Action where
  interaction : Interaction
  /-- The tag of the element, which nothing depends on. -/
  tag : Text := []
  selector : Text
  /-- The time of capture in milliseconds, which nothing depends on. -/
  timestamp : Option Nat := none
  /-- Whether an assertion is asked for. -/
  asserts : Bool := false
  /-- The kind of assertion, as typed. -/
  assertionType : Option Text := none
  /-- What to assert, in words. -/
  instruction : Option Text := none
  deriving DecidableEq, Repr, Inhabited

/-- An assertion that is asked for. -/
structure RequestedAssertion where
  /-- The templated assertion. -/
  kind : AssertionKind
  /-- The instruction that is used in its place where it can be. -/
  instruction : Option Text
  deriving DecidableEq, Repr, Inhabited

namespace Action

def click (selector : Text) : Action := { interaction := .click, selector }

def input (selector value : Text) : Action := { interaction := .input value, selector }

def value? (a : Action) : Option Text := a.interaction.value?

def tagged (a : Action) (tag : Text) : Action := { a with tag }

def asserting (a : Action) (kind : AssertionKind) : Action :=
  { a with asserts := true, assertionType := some kind.key }

def instructed (a : Action) (instruction : Text) : Action :=
  { a with asserts := true, instruction := some instruction }

/-- The assertion that is asked for, if one is. -/
def assertion? (a : Action) : Option RequestedAssertion :=
  if a.asserts then
    some {
      kind := (a.assertionType.bind AssertionKind.ofKey?).getD .present
      instruction := (a.instruction.bind Text.nonBlank?).map Text.trim }
  else none

end Action

structure Recording where
  actions : List Action
  deriving DecidableEq, Repr, Inhabited

end Cuesheet
