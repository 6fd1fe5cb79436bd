import Cuesheet.Json
import Cuesheet.Json.Decoding
import Cuesheet.Recording

/-!
Recordings as JSON documents.

An action is one object in which the members of the interaction (`type` and, for an input, `value`)
stand among the others. The members of the action itself are decoded as they come; all others are
kept, and the interaction is made of them at the end, so it does not matter where among them they
stand. A document holds its actions in an object, or is the bare array of them.
-/

namespace Cuesheet.Document

open Json

/-- The names of the kinds of interaction. -/
def interactionKinds : Variants InteractionKind where
  names := [(InteractionKind.click.name, .click), (InteractionKind.input.name, .input)]

/-! ### Interactions -/

/-- The members of an interaction. -/
def interactionMembers : Interaction → List (Text × Json)
  | .click => member "type" (.string InteractionKind.click.name)
  | .input value =>
    member "type" (.string InteractionKind.input.name) ++ member "value" (.string value)

def ofInteraction (i : Interaction) : Json := .object (interactionMembers i)

/-- How deep the parts of an interaction may nest. -/
def partNesting : Nat := nestingLimit - 1

/-- An interaction under construction: its kind once that is known, and its other members. -/
structure InteractionDraft where
  kind : Option InteractionKind := none
  others : List (Text × Reading) := []

/-- One more member of an interaction, whose kind `identify` reads. -/
def InteractionDraft.add (identify : Decoder InteractionKind) (draft : InteractionDraft)
    (name : Text) (value : Reading) : Except Error InteractionDraft :=
  if name = ("type" : Text) then
    if draft.kind.isSome then fail (.duplicateField "type")
    else do return { draft with kind := some (← identify value) }
  else if value.isSound partNesting then
    return { draft with others := draft.others ++ [(name, value)] }
  else .error .malformed

/-- The value of an input, out of its members. -/
def inputValue (value : Option Text) : List (Text × Reading) → Except Error Text
  | [] => .ok (value.getD [])
  | (name, r) :: members =>
    if name = ("value" : Text) then
      if value.isSome then fail (.duplicateField "value")
      else do inputValue (some (← Decoder.text r)) members
    else inputValue value members

/-- The interaction that the members make. -/
def InteractionDraft.finish (draft : InteractionDraft) : Except Error Interaction :=
  match draft.kind with
  | none => fail (.missingField "type")
  | some .click => .ok .click
  | some .input => .input <$> inputValue none draft.others

/-- The items of an array that is kept as a whole. -/
def soundItems : Items → Except Error (List Reading)
  | .done => .ok []
  | .item value rest =>
    if value.isSound partNesting then do return value :: (← soundItems rest)
    else .error .malformed
  | .broken => .error .malformed

/-- An interaction, as an object or as an array of its kind and value. -/
def interaction : Decoder Interaction
  | .object members => do
    let draft ← Decoder.membersInto [] (InteractionDraft.add (Decoder.identifier interactionKinds))
      [] {} members
    draft.finish
  | .array .done => fail (.missingField "type")
  | .array (.item first rest) => do
    let kind ← Decoder.identifier interactionKinds first
    let items ← soundItems rest
    match kind, items with
    | .click, [] => return .click
    | .click, items => fail (.length items.length "0 elements in sequence")
    | .input, [] => return .input []
    | .input, value :: more =>
      let t ← Decoder.text value
      if more = [] then return .input t
      else fail (.length items.length "1 element in sequence")
  | r => r.typeError "internally tagged enum Interaction"

/-- A kind of interaction, by name or by place. -/
def numberedKind : Decoder InteractionKind
  | .number n =>
    match n.value? with
    | some (.integer 0) => .ok .click
    | some (.integer 1) => .ok .input
    | some (.integer i) =>
      if i < 0 then fail (.type (.integer i) "variant identifier")
      else fail (.value (.integer i) "variant index 0 <= i < 2")
    | _ => Reading.typeError (.number n) "variant identifier"
  | r => Decoder.identifier interactionKinds r

/-! ### Actions -/

def ofAction (a : Action) : Json :=
  .object (interactionMembers a.interaction ++ member "tag" (.string a.tag) ++
    member "selector" (.string a.selector) ++ memberOf? "timestamp" .number a.timestamp ++
    member "assert" (.bool a.asserts) ++ memberOf? "assertType" .string a.assertionType ++
    memberOf? "assertInstruction" .string a.instruction)

structure ActionDraft where
  tag : Text := []
  selector : Option Text := none
  timestamp : Option Nat := none
  asserts : Bool := false
  assertionType : Option Text := none
  instruction : Option Text := none
  /-- The members that are not the action's own. -/
  others : List (Text × Reading) := []

/-- The members of an action apart from those of its interaction. -/
def actionFields : List (FieldRule ActionDraft) :=
  [.of "tag" ["elementTag"] Decoder.text fun d t => { d with tag := t },
    .of "selector" [] Decoder.text fun d t => { d with selector := some t },
    .of "timestamp" ["capturedAt"] (Decoder.nullable (Decoder.natural "u64"))
      fun d n => { d with timestamp := n },
    .of "assert" ["assertionRequested"] Decoder.bool fun d b => { d with asserts := b },
    .of "assertType" ["assertionKind"] (Decoder.nullable Decoder.text)
      fun d t => { d with assertionType := t },
    .of "assertInstruction" ["assertionInstruction"] (Decoder.nullable Decoder.text)
      fun d t => { d with instruction := t }]

/-- A member that is not the action's own is kept. -/
def ActionDraft.keep (d : ActionDraft) (name : Text) (value : Reading) : Except Error ActionDraft :=
  if value.isSound partNesting then .ok { d with others := d.others ++ [(name, value)] }
  else .error .malformed

/-- The action that the members make. -/
def ActionDraft.finish (d : ActionDraft) : Except Error Action := do
  match d.selector with
  | none => fail (.missingField "selector")
  | some selector =>
    let draft ← d.others.foldlM
      (fun (draft : InteractionDraft) m => draft.add numberedKind m.1 m.2) {}
    let interaction ← draft.finish
    return {
      interaction, selector
      tag := d.tag
      timestamp := d.timestamp
      asserts := d.asserts
      assertionType := d.assertionType
      instruction := d.instruction }

def action : Decoder Action
  | .object members => do
    let draft ← Decoder.membersInto actionFields ActionDraft.keep [] {} members
    draft.finish
  | r => r.typeError "struct Action"

/-! ### Recordings -/

def ofRecording (r : Recording) : Json := .object [("actions", .array (r.actions.map ofAction))]

/-- The actions of a document that holds them in an object. -/
def storedActions : Decoder (List Action) := fun r => do
  let actions ← Decoder.record "an object with actions"
    [FieldRule.of "actions" [] (Decoder.list action) fun _ as => some as] none r
  match actions with
  | some as => return as
  | none => fail (.missingField "actions")

/-- A recording, as an object that holds the actions or as their array. What is JSON but neither is
one mismatch, wherever it goes wrong. -/
def recording : Decoder Recording := fun r =>
  if !r.isSound nestingLimit then .error .malformed
  else
    let shape : Decoder (List Action) := match r with
      | .array _ => Decoder.list action
      | _ => storedActions
    match shape r with
    | .ok actions => .ok { actions }
    | .error _ => fail (.noShape "untagged enum RecordingDocument")

end Cuesheet.Document
