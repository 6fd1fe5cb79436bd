import Mathlib.Data.List.Forall2
import Cuesheet.Proofs.Dictionary
import Cuesheet.Review

/-!
What a review makes of a recording.

A review keeps places and edits what stands there (`applyFrom_eq`), so two reviews that agree on the
places of a recording make the same of it (`apply_congr`). That is why neither the order of a selection
nor a place past the recording matters; and since an edit made twice is the edit made once
(`edit_edit`), a review that keeps every place can be made again. The main statement is `apply_exact`.
-/

namespace Cuesheet.Review

/-- The review without the places of a list, wherever it names them. -/
def without (r : Review) (places : List Nat) : Review where
  selection := r.selection.map (·.filter (· ∉ places))
  selectors := r.selectors.filterKeys (· ∉ places)
  assertions := r.assertions.filterKeys (· ∉ places)

/-- What becomes of an action at a place. -/
structure Edited (r : Review) (i : Nat) (a b : Action) : Prop where
  interaction : b.interaction = a.interaction
  tag : b.tag = a.tag
  timestamp : b.timestamp = a.timestamp
  /-- A new selector is trimmed; one of blanks changes nothing. -/
  selector :
    (∃ s, r.selectors.get? i = some s ∧ Text.isBlankText s = false ∧ b.selector = Text.trim s) ∨
      (∀ s, r.selectors.get? i = some s → Text.isBlankText s = true) ∧ b.selector = a.selector
  /-- An assertion takes the place of the recorded one, with its instruction or without any. -/
  assertion :
    (∃ e, r.assertions.get? i = some e ∧ b.asserts = true ∧ b.assertionType = some e.kind.key ∧
        b.instruction = e.instruction) ∨
      r.assertions.get? i = none ∧ b.asserts = a.asserts ∧ b.assertionType = a.assertionType ∧
        b.instruction = a.instruction

variable {r r' : Review}

theorem keeps_eq_true_iff {i : Nat} :
    r.keeps i = true ↔ ∀ indexes, r.selection = some indexes → i ∈ indexes := by
  cases h : r.selection with
  | none => simp [keeps, h]
  | some indexes => simp [keeps, h]

/-! ### One place -/

theorem edited_edit (r : Review) (i : Nat) (a : Action) : r.Edited i a (r.edit i a) := by
  have hselector :
      (∃ s, r.selectors.get? i = some s ∧ Text.isBlankText s = false ∧
          (r.edit i a).selector = Text.trim s) ∨
        (∀ s, r.selectors.get? i = some s → Text.isBlankText s = true) ∧
          (r.edit i a).selector = a.selector := by
    cases hs : r.selectors.get? i with
    | none => cases he : r.assertions.get? i <;> simp [edit, hs, he]
    | some s =>
      cases hb : Text.isBlankText s <;> cases he : r.assertions.get? i <;>
        simp [edit, hs, he, Text.nonBlank?, hb]
  cases hs : (r.selectors.get? i).bind Text.nonBlank? <;> cases he : r.assertions.get? i <;>
    exact
      { interaction := by simp [edit, hs, he]
        tag := by simp [edit, hs, he]
        timestamp := by simp [edit, hs, he]
        selector := hselector
        assertion := by simp [edit, hs, he] }

/-- An edit made twice is the edit made once. -/
theorem edit_edit (r : Review) (i : Nat) (a : Action) : r.edit i (r.edit i a) = r.edit i a := by
  cases hs : (r.selectors.get? i).bind Text.nonBlank? with
  | none => cases he : r.assertions.get? i <;> simp [edit, hs, he]
  | some s => cases he : r.assertions.get? i <;> simp [edit, hs, he]

/-! ### All places -/

/-- A review keeps some of the places, in order, and edits what stands there. -/
theorem applyFrom_eq (r : Review) (start : Nat) (actions : List Action) :
    r.applyFrom start actions =
      ((actions.zipIdx start).filter (r.keeps ·.2)).map fun x => r.edit x.2 x.1 := by
  induction actions generalizing start with
  | nil => rfl
  | cons a actions ih =>
    rw [applyFrom, List.zipIdx_cons, List.filter_cons]
    split
    · rw [List.map_cons, ih]
    · exact ih (start + 1)

/-- Two reviews that agree on the places of a recording make the same of it. -/
theorem apply_congr {actions : List Action}
    (hkeeps : ∀ i < actions.length, r.keeps i = r'.keeps i)
    (hedit : ∀ i < actions.length, r.edit i = r'.edit i) : r.apply actions = r'.apply actions := by
  have hplace : ∀ x ∈ actions.zipIdx 0, x.2 < actions.length := fun x hx =>
    (List.getElem?_eq_some_iff.mp (List.mem_zipIdx_iff_getElem?.mp hx)).1
  rw [apply, apply, applyFrom_eq, applyFrom_eq,
    List.filter_congr fun x hx => hkeeps x.2 (hplace x hx)]
  exact List.map_congr_left fun x hx =>
    congrFun (hedit x.2 (hplace x (List.mem_of_mem_filter hx))) x.1

theorem keeps_keepOnly_congr {indexes indexes' : List Nat}
    (h : ∀ i, i ∈ indexes ↔ i ∈ indexes') (i : Nat) :
    (r.keepOnly indexes).keeps i = (r.keepOnly indexes').keeps i := by
  rw [Bool.eq_iff_iff]
  simpa [keeps, keepOnly] using h i

/-! ### Places past the recording -/

theorem le_of_mem_placesBeyond {n i : Nat} (h : i ∈ r.placesBeyond n) : n ≤ i := by
  obtain ⟨e, he, rfl⟩ := List.mem_map.mp h
  obtain he | he := Dictionary.mem_insertAll he
  · cases he
  · obtain ⟨i, hi, rfl⟩ := List.mem_map.mp he
    simpa using (List.mem_filter.mp hi).2

theorem keeps_without {places : List Nat} {i : Nat} (h : i ∉ places) :
    (r.without places).keeps i = r.keeps i := by
  cases hs : r.selection with
  | none => simp [keeps, without, hs]
  | some indexes => simp [keeps, without, hs, h]

theorem edit_without {places : List Nat} {i : Nat} (h : i ∉ places) :
    (r.without places).edit i = r.edit i := by
  have hselector : (r.without places).selectors.get? i = r.selectors.get? i :=
    Dictionary.get?_filterKeys _ (decide_eq_true h)
  have hassertion : (r.without places).assertions.get? i = r.assertions.get? i :=
    Dictionary.get?_filterKeys _ (decide_eq_true h)
  funext a
  rw [edit, edit, hselector, hassertion]

/-- Places past the recording are of no effect. -/
theorem apply_without_placesBeyond (r : Review) (actions : List Action) :
    (r.without (r.placesBeyond actions.length)).apply actions = r.apply actions :=
  have hout : ∀ i < actions.length, i ∉ r.placesBeyond actions.length := fun _ hi h =>
    absurd (le_of_mem_placesBeyond h) (by omega)
  apply_congr (fun i hi => keeps_without (hout i hi)) fun i hi => edit_without (hout i hi)

/-! ### A review made twice -/

/-- What keeps every place can be done again from the same place on. -/
theorem applyFrom_applyFrom {start : Nat} {actions : List Action}
    (h : ∀ i < actions.length, r.keeps (start + i) = true) :
    r.applyFrom start (r.applyFrom start actions) = r.applyFrom start actions := by
  induction actions generalizing start with
  | nil => rfl
  | cons a actions ih =>
    have hhead : r.keeps start = true := h 0 (by simp)
    have htail : ∀ i < actions.length, r.keeps (start + 1 + i) = true := fun i hi => by
      rw [Nat.add_right_comm]
      exact h (i + 1) (Nat.succ_lt_succ hi)
    rw [applyFrom, if_pos hhead, applyFrom, if_pos hhead, edit_edit, ih htail]

/-! ### The whole -/

/-- The places of a recording that a review keeps. -/
def keptPlaces (r : Review) (actions : List Action) : List Nat :=
  ((actions.zipIdx).filter (r.keeps ·.2)).map (·.2)

theorem keptPlaces_pairwise (r : Review) (actions : List Action) :
    (r.keptPlaces actions).Pairwise (· < ·) := by
  have hall : (actions.zipIdx.map (·.2)).Pairwise (· < ·) := by
    rw [List.zipIdx_map_snd]
    exact List.pairwise_lt_range'
  exact hall.sublist (List.filter_sublist.map _)

theorem mem_keptPlaces {actions : List Action} {i : Nat} :
    i ∈ r.keptPlaces actions ↔ i < actions.length ∧ r.keeps i = true := by
  constructor
  · intro h
    obtain ⟨x, hx, rfl⟩ := List.mem_map.mp h
    obtain ⟨hmem, hkeep⟩ := List.mem_filter.mp hx
    exact ⟨(List.getElem?_eq_some_iff.mp (List.mem_zipIdx_iff_getElem?.mp hmem)).1, hkeep⟩
  · rintro ⟨hi, hkeep⟩
    have hmem : (actions[i], i) ∈ actions.zipIdx :=
      List.mem_zipIdx_iff_getElem?.mpr (List.getElem?_eq_getElem hi)
    exact List.mem_map.mpr ⟨_, List.mem_filter.mpr ⟨hmem, hkeep⟩, rfl⟩

theorem forall₂_keptPlaces (r : Review) (actions : List Action) :
    List.Forall₂ (fun i b => ∃ a, actions[i]? = some a ∧ r.Edited i a b) (r.keptPlaces actions)
      (r.apply actions) := by
  rw [apply, applyFrom_eq, keptPlaces, List.forall₂_map_left_iff, List.forall₂_map_right_iff,
    List.forall₂_same]
  intro x hx
  exact ⟨x.1, List.mem_zipIdx_iff_getElem?.mp (List.mem_of_mem_filter hx), edited_edit ..⟩

/-- **A review gives the kept actions, each once and in recorded order, and edits nothing but the
selector and the assertion.** So only which places are selected matters, not how often or in what
order; places past the recording can be left out; and a review that keeps everything can be made
again. -/
theorem apply_exact (r : Review) (actions : List Action) :
    (∃ kept : List Nat, kept.Pairwise (· < ·) ∧
      (∀ i, i ∈ kept ↔
        i < actions.length ∧ ∀ indexes, r.selection = some indexes → i ∈ indexes) ∧
      List.Forall₂ (fun i b => ∃ a, actions[i]? = some a ∧ r.Edited i a b) kept
        (r.apply actions)) ∧
    (∀ indexes indexes', (∀ i, i ∈ indexes ↔ i ∈ indexes') →
      (r.keepOnly indexes).apply actions = (r.keepOnly indexes').apply actions) ∧
    (r.without (r.placesBeyond actions.length)).apply actions = r.apply actions ∧
    ((∀ i < actions.length, ∀ indexes, r.selection = some indexes → i ∈ indexes) →
      r.apply (r.apply actions) = r.apply actions) := by
  refine ⟨⟨r.keptPlaces actions, r.keptPlaces_pairwise actions, fun i => ?_,
    r.forall₂_keptPlaces actions⟩, ?_, r.apply_without_placesBeyond actions, ?_⟩
  · rw [mem_keptPlaces, keeps_eq_true_iff]
  · intro indexes indexes' h
    exact apply_congr (fun i _ => keeps_keepOnly_congr h i) fun _ _ => rfl
  · intro h
    refine applyFrom_applyFrom fun i hi => ?_
    rw [Nat.zero_add]
    exact keeps_eq_true_iff.mpr (h i hi)

/-- The last of three actions is named twice and before the first, beside a place the recording lacks,
and a new selector for the first one has outer blanks. -/
theorem apply_exact_unordered :
    let actions := [Action.click "#a".toList, Action.click "#b".toList, Action.click "#c".toList]
    let r := ((keepOnly {} [2, 7, 0, 2]).rename 0 " #new ".toList).demand 2 { kind := .present }
    r.apply actions =
        [Action.click "#new".toList, (Action.click "#c".toList).asserting .present] ∧
      r.placesBeyond 3 = [7] ∧ (r.without [7]).apply actions = r.apply actions := by
  intro actions r
  exact ⟨by decide +kernel, by decide +kernel, (apply_exact r actions).2.2.1⟩

end Cuesheet.Review
