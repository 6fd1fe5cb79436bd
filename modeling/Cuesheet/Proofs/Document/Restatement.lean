import Cuesheet.Proofs.Document.Member
import Cuesheet.Proofs.Json.Reading

/-!
Other objects that say the same action.

The members of an action may be put in another order, go by another spelling of their names, and stand
among members that are nobody's, which for a click includes a value. All that leaves alone what each name
is given, so the object is decoded to the same action (`decode_restated`). What is put in has to be
something that can be kept: the text is refused where it holds a number beyond double precision, half a
surrogate pair or too many levels of nesting, whatever the name of the member.
-/

namespace Cuesheet.Document

open Json Decoder

/-- The names of the members of an action, the two of its interaction last. -/
def memberNames : List Text := fieldNames ++ (["type", "value"] : List Text)

/-- The two spellings of a name. -/
def spellings : List (Text × Text) :=
  [("tag", "elementTag"), ("timestamp", "capturedAt"), ("assert", "assertionRequested"),
    ("assertType", "assertionKind"), ("assertInstruction", "assertionInstruction")]

/-- Members that say the same action of a kind in another way. -/
inductive Restated (kind : InteractionKind) :
    List (Text × Reading) → List (Text × Reading) → Prop
  | permute {ms ms' : List (Text × Reading)} : ms.Perm ms' → Restated kind ms ms'
  | rename {before after : List (Text × Reading)} {name name' : Text} {v : Reading} :
      (name, name') ∈ spellings ∨ (name', name) ∈ spellings →
      Restated kind (before ++ (name, v) :: after) (before ++ (name', v) :: after)
  | insert {before after : List (Text × Reading)} {name : Text} {v : Reading} :
      name ∉ memberNames ∨ kind = .click ∧ name = "value" → v.isSound partNesting = true →
      Restated kind (before ++ after) (before ++ (name, v) :: after)
  | trans {ms ms' ms'' : List (Text × Reading)} :
      Restated kind ms ms' → Restated kind ms' ms'' → Restated kind ms ms''

/-- The names of each member of an action. -/
def nameGroups : List (List Text) :=
  [["tag", "elementTag"], ["selector"], ["timestamp", "capturedAt"], ["assert", "assertionRequested"],
    ["assertType", "assertionKind"], ["assertInstruction", "assertionInstruction"], ["type"],
    ["value"]]

/-- Two spellings count alike for every member. -/
theorem mem_iff_of_spellings : ∀ pair ∈ spellings,
    (∀ names ∈ nameGroups, pair.1 ∈ names ↔ pair.2 ∈ names) ∧
      pair.1 ∈ fieldNames ∧ pair.2 ∈ fieldNames := by decide

/-- No other member goes by the names, nor the value by those of another. -/
theorem mem_nameGroups : ∀ names ∈ nameGroups,
    (∀ name ∈ names, name ∈ memberNames) ∧ (("value" : Text) ∈ names → names = ["value"]) := by
  decide

variable {ms ms' : List (Text × Reading)} {a : Action} {kind : InteractionKind}

/-- What members describe depends on the values that each name is given, and for a click not on
those of a value. -/
theorem Describes.of_values (h : Describes ms a)
    (hvalues : ∀ names ∈ nameGroups, (names = ["value"] → a.interaction.kind = .input) →
      (valuesOf names ms).Perm (valuesOf names ms'))
    (hsound : ∀ m ∈ ms', m.1 ∉ fieldNames → m.2.isSound partNesting = true) : Describes ms' a where
  tag := h.tag.perm (hvalues _ (by decide) (fun hname => absurd hname (by decide)))
  selector := h.selector.perm (hvalues _ (by decide) (fun hname => absurd hname (by decide)))
  timestamp := h.timestamp.perm (hvalues _ (by decide) (fun hname => absurd hname (by decide)))
  asserts := h.asserts.perm (hvalues _ (by decide) (fun hname => absurd hname (by decide)))
  assertionType :=
    h.assertionType.perm (hvalues _ (by decide) (fun hname => absurd hname (by decide)))
  instruction := h.instruction.perm (hvalues _ (by decide) (fun hname => absurd hname (by decide)))
  interaction := by
    obtain ⟨r, hone, hkind⟩ := h.interaction.kind
    have htype := hvalues ["type"] (by decide) (fun hname => absurd hname (by decide))
    rw [hone] at htype
    refine ⟨⟨r, List.perm_singleton.mp htype.symm, hkind⟩, fun v hv => ?_⟩
    exact (h.interaction.value v hv).perm (hvalues ["value"] (by decide) fun _ => by rw [hv]; rfl)
  sound := hsound

/-- Restated members describe the same action. -/
theorem Restated.describes (h : Restated kind ms ms') (hkind : a.interaction.kind = kind)
    (ha : Describes ms a) : Describes ms' a := by
  induction h with
  | permute hp =>
    exact ha.of_values (fun _ _ _ => valuesOf_perm hp) fun m hm => ha.sound m (hp.mem_iff.mpr hm)
  | @rename before after name name' v hspell =>
    obtain ⟨hsame, -, hown'⟩ : (∀ names ∈ nameGroups, name ∈ names ↔ name' ∈ names) ∧
        name ∈ fieldNames ∧ name' ∈ fieldNames := by
      rcases hspell with h | h
      · exact mem_iff_of_spellings _ h
      · obtain ⟨hsame, hown⟩ := mem_iff_of_spellings _ h
        exact ⟨fun names hnames => (hsame names hnames).symm, hown.symm⟩
    refine ha.of_values (fun names hnames _ => .of_eq (valuesOf_rename (hsame names hnames)))
      fun m hm hfree => ?_
    have hm' : m ∈ before ++ (name, v) :: after := by
      rcases List.mem_append.mp hm with hm | hm
      · exact List.mem_append_left _ hm
      · rcases List.mem_cons.mp hm with rfl | hm
        · exact absurd hown' hfree
        · exact List.mem_append_right _ (List.mem_cons_of_mem _ hm)
    exact ha.sound m hm' hfree
  | @insert before after name v hname hsound =>
    have hfree : ∀ names ∈ nameGroups, (names = ["value"] → a.interaction.kind = .input) →
        name ∉ names := by
      intro names hnames hinput hmem
      rcases hname with hname | ⟨hclick, rfl⟩
      · exact hname ((mem_nameGroups names hnames).1 name hmem)
      · have hvalue := hinput ((mem_nameGroups names hnames).2 hmem)
        exact nomatch hclick.symm.trans (hkind.symm.trans hvalue)
    refine ha.of_values (fun names hnames hinput =>
      .of_eq (valuesOf_insert (hfree names hnames hinput)).symm) fun m hm hown => ?_
    rcases List.mem_append.mp hm with hm | hm
    · exact ha.sound m (List.mem_append_left _ hm) hown
    · rcases List.mem_cons.mp hm with rfl | hm
      · exact hsound
      · exact ha.sound m (List.mem_append_right _ hm) hown
  | trans _ _ ih ih' => exact ih' (ih ha)

/-- An object that restates an action is decoded to it. -/
theorem action_restated {members members' : Members} (hms : members.toList? = some ms)
    (hms' : members'.toList? = some ms') (h : action (.object members) = .ok a)
    (hrestated : Restated a.interaction.kind ms ms') : action (.object members') = .ok a := by
  obtain ⟨ms₀, hms₀, ha⟩ := action_object_iff.mp h
  obtain rfl := Option.some.inj (hms₀.symm.trans hms)
  exact action_object_iff.mpr ⟨ms', hms', hrestated.describes rfl ha⟩

theorem typeError_ne_ok {α : Type} (r : Reading) (expected : Text) (b : α) :
    r.typeError expected ≠ .ok b := by
  intro h
  obtain ⟨found, -, he⟩ := bind_eq_ok_iff.mp h
  exact nomatch he

/-- Only an object says an action. -/
theorem exists_members_of_action {r : Reading} (h : action r = .ok a) :
    ∃ members, r = .object members := by
  cases r with
  | object members => exact ⟨members, rfl⟩
  | null | bool | number | string | array | broken => exact absurd h (typeError_ne_ok _ _ _)

/-- A text that says an action is the text of one object. -/
theorem decode_action_eq_ok_iff {t : Text} : decode action t = .ok a ↔
    ∃ members, Reading.ofText t = (.object members, true) ∧ action (.object members) = .ok a := by
  rw [decode]
  generalize Reading.ofText t = found
  obtain ⟨r, ended⟩ := found
  simp only [bind_eq_ok_iff]
  constructor
  · rintro ⟨b, hb, hended⟩
    obtain ⟨members, rfl⟩ := exists_members_of_action hb
    cases ended with
    | false => exact nomatch hended
    | true =>
      obtain rfl := Except.ok.inj hended
      exact ⟨members, rfl, hb⟩
  · rintro ⟨members, hread, ha⟩
    obtain ⟨rfl, rfl⟩ := Prod.mk.inj hread
    exact ⟨a, ha, rfl⟩

/-- **An action is decoded alike from all objects that restate it**: order, spelling and members that are
nobody's make no difference, and it has a value exactly if its type is an input. -/
theorem decode_restated {t : Text} (h : decode action t = .ok a) :
    ∃ members ms, Reading.ofText t = (.object members, true) ∧ members.toList? = some ms ∧
      (∃ r, valuesOf ["type"] ms = [r] ∧ numberedKind r = .ok a.interaction.kind) ∧
      (a.value?.isSome = true ↔ a.interaction.kind = .input) ∧
      ∀ t' members' ms', Reading.ofText t' = (.object members', true) → members'.toList? = some ms' →
        Restated a.interaction.kind ms ms' → decode action t' = .ok a := by
  obtain ⟨members, hread, ha⟩ := decode_action_eq_ok_iff.mp h
  obtain ⟨ms, hms, hdescribes⟩ := action_object_iff.mp ha
  have hvalue : a.value?.isSome = true ↔ a.interaction.kind = .input := by
    rw [Action.value?]
    cases a.interaction with
    | click => exact ⟨(nomatch ·), (nomatch ·)⟩
    | input v => exact ⟨fun _ => rfl, fun _ => rfl⟩
  refine ⟨members, ms, hread, hms, hdescribes.interaction.kind, hvalue, ?_⟩
  intro t' members' ms' hread' hms' hrestated
  exact decode_action_eq_ok_iff.mpr ⟨members', hread', action_restated hms hms' ha hrestated⟩

/-- A click that is given a value and a member that nobody knows, in another order and spelling. -/
theorem decode_restated_click :
    let t : Text := "\x7b\"type\": \"click\", \"selector\": \"#a\", \"timestamp\": 5\x7d"
    let t' : Text := "\x7b\"capturedAt\": 5, \"selector\": \"#a\", \"type\": \"click\"," ++
      " \"value\": 2, \"x\": [1]\x7d"
    let a : Action := { Action.click "#a" with timestamp := some 5 }
    decode action t = .ok a ∧ decode action t' = .ok a ∧ a.value?.isSome = false := by
  intro t t' a
  let kind : Text × Reading := ("type", .string (.text "click"))
  let selector : Text × Reading := ("selector", .string (.text "#a"))
  let time (name : Text) : Text × Reading := (name, (Json.number 5).reading)
  let entered : Text × Reading := ("value", (Json.number 2).reading)
  let unknown : Text × Reading := ("x", (Json.array [.number 1]).reading)
  have hdecode : decode action t = .ok a := eq_ok_of_toOption (by decide +kernel)
  have hread : Reading.ofText t = (.object (readingMembers [("type", .string "click"),
      ("selector", .string "#a"), ("timestamp", .number 5)]), true) := by decide +kernel
  have hread' : Reading.ofText t' = (.object (readingMembers [("capturedAt", .number 5),
      ("selector", .string "#a"), ("type", .string "click"), ("value", .number 2),
      ("x", .array [.number 1])]), true) := by decide +kernel
  have hrestated : Restated .click [kind, selector, time "timestamp"]
      [time "capturedAt", selector, kind, entered, unknown] := by
    have hrename : Restated .click ([kind, selector] ++ time "timestamp" :: [])
        ([kind, selector] ++ time "capturedAt" :: []) := .rename (.inl (by decide))
    have hentered : Restated .click ([] ++ [kind, selector, time "capturedAt"])
        ([] ++ entered :: [kind, selector, time "capturedAt"]) :=
      .insert (.inr ⟨rfl, rfl⟩) (by decide +kernel)
    have hunknown : Restated .click ([] ++ [entered, kind, selector, time "capturedAt"])
        ([] ++ unknown :: [entered, kind, selector, time "capturedAt"]) :=
      .insert (.inl (by decide)) (by decide +kernel)
    exact hrename.trans (hentered.trans (hunknown.trans (.permute (List.reverse_perm _).symm)))
  obtain ⟨members, ms, hmembers, hms, -, hvalue, hall⟩ := decode_restated hdecode
  obtain rfl := Reading.object.inj (Prod.mk.inj (hmembers.symm.trans hread)).1
  obtain rfl := Option.some.inj hms
  refine ⟨hdecode, hall t' _ _ hread' rfl hrestated, ?_⟩
  rw [Bool.eq_false_iff, ne_eq, hvalue]
  decide

/-- What is put in is read, though nobody knows it: a number beyond double precision is refused. -/
theorem not_forall_decode_inserted :
    ¬ ∀ (t t' : Text) (members members' : Members) (before after : List (Text × Reading))
      (name : Text) (v : Reading) (a : Action), decode action t = .ok a →
      Reading.ofText t = (.object members, true) → members.toList? = some (before ++ after) →
      name ∉ memberNames → Reading.ofText t' = (.object members', true) →
      members'.toList? = some (before ++ (name, v) :: after) → decode action t' = .ok a := by
  intro h
  let t : Text := "\x7b\"type\": \"click\", \"selector\": \"#a\"\x7d"
  let t' : Text := "\x7b\"x\": 1e999, \"type\": \"click\", \"selector\": \"#a\"\x7d"
  let v : Reading := .number ⟨false, "1", none, some (false, "999")⟩
  let members := readingMembers [("type", .string "click"), ("selector", .string "#a")]
  have hdecode : decode action t = .ok (Action.click "#a") := eq_ok_of_toOption (by decide +kernel)
  have hread : Reading.ofText t = (.object members, true) := by decide +kernel
  have hread' : Reading.ofText t' = (.object (.member (.of "x") v members), true) := by
    decide +kernel
  have hrefused : (decode action t').toOption = none := by decide +kernel
  have hclaimed := h t t' members (.member (.of "x") v members) [] _ "x" v _ hdecode hread rfl
    (by decide) hread' rfl
  rw [hclaimed] at hrefused
  exact nomatch hrefused

end Cuesheet.Document
