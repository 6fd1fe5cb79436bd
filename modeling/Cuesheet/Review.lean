import Cuesheet.Recording

/-!
A reviewer's edits of a recording.

A review names actions by their place in the recording. It says which to keep, and may replace a
selector or ask for an assertion. Applied, it gives the kept actions in recorded order, whatever the
order in which they are named; places past the recording are of no effect, and `placesBeyond` lists
them.
-/

namespace Cuesheet

/-- An assertion a reviewer asks for. -/
structure AssertionEdit where
  kind : AssertionKind := .present
  instruction : Option Text := none
  deriving DecidableEq, Repr, Inhabited

/-- A reviewer's edits. -/
structure Review where
  /-- The places to keep; without a list, all. -/
  selection : Option (List Nat) := none
  /-- New selectors, by place. -/
  selectors : Dictionary Nat Text := ∅
  /-- Assertions, by place. -/
  assertions : Dictionary Nat AssertionEdit := ∅
  deriving DecidableEq, Inhabited

namespace Review

/-- The review with a selection in place of its own. -/
def keepOnly (r : Review) (indexes : List Nat) : Review := { r with selection := some indexes }

/-- The review with a new selector for one place. -/
def rename (r : Review) (index : Nat) (selector : Text) : Review :=
  { r with selectors := r.selectors.insert index selector }

/-- The review with an assertion for one place. -/
def demand (r : Review) (index : Nat) (edit : AssertionEdit) : Review :=
  { r with assertions := r.assertions.insert index edit }

def mentions (r : Review) : List Nat :=
  r.selection.getD [] ++ r.selectors.keys ++ r.assertions.keys

/-- The numbers of a list in ascending order, each once. -/
def ascending (indexes : List Nat) : List Nat :=
  (Dictionary.ofList (indexes.map fun i => (i, ()))).keys

/-- The places the review names that a recording of `length` actions lacks, in ascending order. -/
def placesBeyond (r : Review) (length : Nat) : List Nat :=
  ascending (r.mentions.filter (length ≤ ·))

def keeps (r : Review) (index : Nat) : Bool :=
  match r.selection with
  | none => true
  | some indexes => indexes.contains index

/-- The action at a place, with the edits for it. -/
def edit (r : Review) (index : Nat) (a : Action) : Action :=
  let renamed := match (r.selectors.get? index).bind Text.nonBlank? with
    | none => a
    | some selector => { a with selector := Text.trim selector }
  match r.assertions.get? index with
  | none => renamed
  | some e =>
    { renamed with
      asserts := true, assertionType := some e.kind.key, instruction := e.instruction }

/-- The kept actions of those from place `index` on, with their edits. -/
def applyFrom (r : Review) (index : Nat) : List Action → List Action
  | [] => []
  | a :: actions =>
    if r.keeps index then r.edit index a :: r.applyFrom (index + 1) actions
    else r.applyFrom (index + 1) actions

/-- The kept actions of a recording, with their edits. -/
def apply (r : Review) (actions : List Action) : List Action := r.applyFrom 0 actions

end Review

end Cuesheet
