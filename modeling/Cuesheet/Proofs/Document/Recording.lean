import Cuesheet.Document.Recording
import Cuesheet.Proofs.Json.Record

/-!
Recordings, decoded from what they are written as.

The members of an interaction stand first in an action and are no fields of it, so they are kept and
made into the interaction at the end (`fills_interaction`, `finish_draftOf`); the fields fill up one by
one. A recording is decoded from its object and from the bare array of its actions alike.
-/

namespace Cuesheet

/-- Every time of capture fits in 64 bits. -/
def Action.Fits (a : Action) : Prop := ∀ n ∈ a.timestamp, n < Nat.pow 2 64

/-- Every number of the recording fits in 64 bits. -/
def Recording.Fits (r : Recording) : Prop := ∀ a ∈ r.actions, a.Fits

namespace Document

open Json

/-- The members of an interaction as an action keeps them. -/
def keptMembers (i : Interaction) : List (Text × Reading) :=
  (interactionMembers i).map fun m => (m.1, m.2.reading)

theorem fills_interaction (i : Interaction) :
    Decoder.Fills actionFields ActionDraft.keep [] (interactionMembers i) {}
      { others := keptMembers i } := by
  cases i with
  | click => exact .unknown rfl rfl
  | input value => exact .append (.unknown rfl rfl) (.unknown rfl rfl) (by simp)

/-- The action as a draft, with the members of its interaction aside. -/
def draftOf (a : Action) : ActionDraft where
  tag := a.tag
  selector := some a.selector
  timestamp := a.timestamp
  asserts := a.asserts
  assertionType := a.assertionType
  instruction := a.instruction
  others := keptMembers a.interaction

theorem finish_draftOf (a : Action) : (draftOf a).finish = .ok a := by
  obtain ⟨i, _⟩ := a
  cases i with
  | click => rfl
  | input value => rfl

variable {a : Action}

/-- The members of an action fill up its draft. -/
theorem fills_action (h : a.Fits) : ∃ names, Decoder.Fills actionFields ActionDraft.keep names
    (interactionMembers a.interaction ++ member "tag" (.string a.tag) ++
      member "selector" (.string a.selector) ++ memberOf? "timestamp" .number a.timestamp ++
      member "assert" (.bool a.asserts) ++ memberOf? "assertType" .string a.assertionType ++
      memberOf? "assertInstruction" .string a.instruction) {} (draftOf a) := by
  have hnumber : ∀ n ∈ a.timestamp, Decoder.nullable (Decoder.natural "u64") (number n).reading =
      .ok (some n) := fun n hn => congrArg (some <$> ·) (Decoder.natural_number "u64" (h n hn))
  have htag := (fills_interaction a.interaction).append
    (.member (k := "tag") (v := .string a.tag) rfl (Decoder.read_of rfl)) (by simp)
  have hselector := htag.append
    (.member (k := "selector") (v := .string a.selector) rfl (Decoder.read_of rfl)) (by decide)
  have htimestamp := hselector.append
    (.memberOf? (k := "timestamp") a.timestamp rfl rfl hnumber) (by decide)
  have hasserts := htimestamp.append
    (.member (k := "assert") (v := .bool a.asserts) rfl (Decoder.read_of rfl)) (by decide)
  have htype := hasserts.append (.memberOf? (k := "assertType") (w := .string)
    a.assertionType rfl rfl fun _ _ => rfl) (by decide)
  have hinstruction := htype.append (.memberOf? (k := "assertInstruction") (w := .string)
    a.instruction rfl rfl fun _ _ => rfl) (by decide)
  exact ⟨_, hinstruction⟩

theorem action_ofAction (h : a.Fits) : action (ofAction a).reading = .ok a := by
  obtain ⟨names, hfills⟩ := fills_action h
  rw [ofAction, reading, action, hfills.membersInto_eq]
  exact finish_draftOf a

/-- The parts of an action are texts, truth values and numbers that fit. -/
theorem isSound_ofAction (h : a.Fits) (levels : Nat) :
    (ofAction a).reading.isSound (levels + 1) = true := by
  have hnumber : ∀ n ∈ a.timestamp, (number n).reading.isSound levels = true := by
    intro n hn
    simp only [reading, Reading.isSound, Numeral.value?_ofNat (h n hn)]
    rfl
  have hinteraction : ∀ m ∈ interactionMembers a.interaction, m.2.reading.isSound levels = true := by
    cases a.interaction with
    | click => simp [interactionMembers, member, reading, Reading.isSound]
    | input value => simp [interactionMembers, member, reading, Reading.isSound]
  refine Decoder.isSound_members (n := levels) ?_
  simp only [List.forall_mem_append, Decoder.forall_mem_memberOf?, member, List.forall_mem_singleton]
  exact ⟨⟨⟨⟨⟨⟨hinteraction, rfl⟩, rfl⟩, hnumber⟩, rfl⟩, fun _ _ => rfl⟩, fun _ _ => rfl⟩

variable {r : Recording}

theorem isSound_actions (h : r.Fits) (levels : Nat) :
    (Json.array (r.actions.map ofAction)).reading.isSound (levels + 2) = true := by
  refine Decoder.isSound_items (n := levels + 1) fun v hv => ?_
  obtain ⟨a, ha, rfl⟩ := List.mem_map.mp hv
  exact isSound_ofAction (h a ha) levels

theorem list_actions (h : r.Fits) :
    Decoder.list action (Json.array (r.actions.map ofAction)).reading = .ok r.actions :=
  Decoder.list_array fun a ha => action_ofAction (h a ha)

/-- The bare array of its actions says a recording. -/
theorem recording_array (h : r.Fits) :
    recording (Json.array (r.actions.map ofAction)).reading = .ok r := by
  have hsound : (Json.array (r.actions.map ofAction)).reading.isSound nestingLimit = true :=
    isSound_actions h 125
  have hactions := list_actions h
  rw [reading] at hsound hactions ⊢
  simp only [recording, hsound, Bool.not_true, Bool.false_eq_true, if_false, hactions]

theorem storedActions_ofRecording (h : r.Fits) :
    storedActions (ofRecording r).reading = .ok r.actions := by
  have hread : (FieldRule.of "actions" [] (Decoder.list action)
      fun (_ : Option (List Action)) as => some as).read none
        (Json.array (r.actions.map ofAction)).reading = .ok (some r.actions) :=
    Decoder.read_of (list_actions h)
  have hrecord : Decoder.record "an object with actions"
      [.of "actions" [] (Decoder.list action) fun _ as => some as] none (ofRecording r).reading =
        .ok (some r.actions) := Decoder.Fills.record (.member rfl hread) rfl
  rw [storedActions, hrecord]
  rfl

/-- **A recording is what its document says.** -/
theorem recording_ofRecording (h : r.Fits) : recording (ofRecording r).reading = .ok r := by
  have hsound : (ofRecording r).reading.isSound nestingLimit = true := by
    refine Decoder.isSound_members (n := 126) fun m hm => ?_
    obtain rfl := List.mem_singleton.mp hm
    exact isSound_actions h 124
  have hstored := storedActions_ofRecording h
  rw [ofRecording, reading] at hsound hstored ⊢
  simp only [recording, hsound, Bool.not_true, Bool.false_eq_true, if_false, hstored]

end Document

end Cuesheet
