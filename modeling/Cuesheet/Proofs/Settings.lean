import Cuesheet.Settings
import Cuesheet.Proofs.Dictionary

/-!
Settings, settled.

Resolved settings lack nothing and hold no blank template (`TemplateTable.Complete`): the tables of
the frameworks are complete, and laying a user's templates over a complete table keeps it so. Written
as a user would write them (`Settings.asUser`) they therefore replace every entry they are laid over,
and come to the same settings again (`resolve_asUser`).
-/

namespace Cuesheet

namespace Text

/-- A text that does not hold blanks only. -/
def NonBlank (t : Text) : Prop := nonBlank? t = some t

theorem nonBlank_iff {t : Text} : t.NonBlank ↔ isBlankText t = false := by
  cases h : isBlankText t <;> simp [NonBlank, nonBlank?, h]

instance (t : Text) : Decidable t.NonBlank := decidable_of_iff _ nonBlank_iff.symm

theorem nonBlank_of_nonBlank? {t u : Text} (h : nonBlank? t = some u) : u.NonBlank := by
  have htu : t = u := by
    rw [nonBlank?] at h
    split at h
    next => cases h
    next => exact Option.some.inj h
  rw [← htu] at h ⊢
  exact h

end Text

namespace AssertionKind

theorem ofKey?_key (k : AssertionKind) : ofKey? k.key = some k := by
  cases k <;> decide

/-- The names of the kinds stand in the order of the kinds. -/
theorem compare_key (j k : AssertionKind) : compare j.key k.key = compare j k := by
  cases j <;> cases k <;> decide

end AssertionKind

namespace Framework

theorem ofSetting_name (f : Framework) : ofSetting (some f.name) = f := by
  cases f <;> decide

end Framework

namespace TemplateTable

/-- Every template is there and says something. -/
structure Complete (t : TemplateTable) : Prop where
  click : ∃ x, t.click = some x ∧ x.NonBlank
  input : ∃ x, t.input = some x ∧ x.NonBlank
  assertions : ∀ k, (t.assertions.get? k).isSome
  nonBlank : ∀ e ∈ t.assertions.entries, e.2.NonBlank

variable {t : TemplateTable}

/-- One more assertion template that says something leaves a table complete. -/
theorem Complete.insert (h : t.Complete) (k : AssertionKind) {x : Text} (hx : x.NonBlank) :
    Complete { t with assertions := t.assertions.insert k x } where
  click := h.click
  input := h.input
  assertions j := by
    by_cases hjk : j = k
    · rw [hjk, Dictionary.get?_insert_self]
      rfl
    · rw [Dictionary.get?_insert_of_ne _ hjk]
      exact h.assertions j
  nonBlank e he := by
    rcases Dictionary.mem_insertEntry he with rfl | he
    · exact hx
    · exact h.nonBlank e he

theorem Complete.customizeAssertion (h : t.Complete) (key template : Text) :
    (t.customizeAssertion key template).Complete := by
  rw [TemplateTable.customizeAssertion]
  split
  next hx => exact h.insert _ (Text.nonBlank_of_nonBlank? hx)
  next => exact h

/-- A user's template that says something, or else the one that is there. -/
theorem exists_nonBlank_or {a b : Option Text} (h : ∃ x, b = some x ∧ x.NonBlank) :
    ∃ x, (a.bind Text.nonBlank?).or b = some x ∧ x.NonBlank := by
  cases hc : a.bind Text.nonBlank? with
  | none => exact h
  | some x =>
    obtain ⟨y, -, hy⟩ := Option.bind_eq_some_iff.mp hc
    exact ⟨x, rfl, Text.nonBlank_of_nonBlank? hy⟩

/-- A complete table stays complete under whatever a user lays over it. -/
theorem Complete.customize (h : t.Complete) (user : UserTemplates) :
    (t.customize user).Complete := by
  have hfold : ∀ (es : List (Text × Text)) (s : TemplateTable), s.Complete →
      (es.foldl (fun t e => t.customizeAssertion e.1 e.2) s).Complete := by
    intro es
    induction es with
    | nil => exact fun s hs => hs
    | cons e es ih => exact fun s hs => ih _ (hs.customizeAssertion e.1 e.2)
  refine hfold _ _ ?_
  exact { h with click := exists_nonBlank_or h.click, input := exists_nonBlank_or h.input }

theorem complete_full {click input present hasText valueIs : Text}
    (h : ∀ x ∈ [click, input, present, hasText, valueIs], x.NonBlank) :
    (full click input present hasText valueIs).Complete where
  click := ⟨click, rfl, h _ (by simp)⟩
  input := ⟨input, rfl, h _ (by simp)⟩
  assertions k := by cases k <;> rfl
  nonBlank := by
    have hentries : (full click input present hasText valueIs).assertions.entries =
      [(.present, present), (.hasText, hasText), (.valueIs, valueIs)] := rfl
    simp only [hentries, List.forall_mem_cons]
    exact ⟨h _ (by simp), h _ (by simp), h _ (by simp), by simp⟩

theorem complete_templates (f : Framework) : f.target.templates.Complete := by
  cases f with
  | plain => exact complete_full (by decide +kernel)
  | playwright => exact complete_full (by decide +kernel)
  | cypress => exact complete_full (by decide +kernel)
  | selenium => exact complete_full (by decide +kernel)

end TemplateTable

namespace Settings

/-- The settings that a user's settings come to, if there are any. -/
def ofUser : Option UserSettings → Settings
  | none => .default
  | some u => u.resolve

theorem complete_ofUser (user : Option UserSettings) : (ofUser user).templates.Complete := by
  cases user with
  | none => exact TemplateTable.complete_templates .plain
  | some u => exact (TemplateTable.complete_templates _).customize u.templates

/-- A dictionary of assertion templates, keyed by name. -/
def byName (d : Dictionary AssertionKind Text) : Dictionary Text Text where
  entries := d.entries.map fun e => (e.1.key, e.2)
  ascending := by
    simp only [List.pairwise_map, AssertionKind.compare_key]
    exact d.ascending

/-- The settings as a user would write them. -/
def asUser (s : Settings) : UserSettings where
  framework := some s.framework.name
  locators := s.locators
  templates :=
    { click := s.templates.click, input := s.templates.input
      assertions := byName s.templates.assertions }

/-- A table of assertion templates by name is laid over another entry by entry. -/
theorem foldl_byName {es : List (AssertionKind × Text)} (h : ∀ e ∈ es, e.2.NonBlank)
    (t : TemplateTable) :
    (es.map fun e => (e.1.key, e.2)).foldl (fun t e => t.customizeAssertion e.1 e.2) t =
      { t with assertions := t.assertions.insertAll es } := by
  induction es generalizing t with
  | nil => rfl
  | cons e es ih =>
    obtain ⟨he, hes⟩ := List.forall_mem_cons.mp h
    have hnonBlank : Text.nonBlank? e.2 = some e.2 := he
    have hstep : t.customizeAssertion e.1.key e.2 =
        { t with assertions := t.assertions.insert e.1 e.2 } := by
      simp only [TemplateTable.customizeAssertion, AssertionKind.ofKey?_key, hnonBlank]
    rw [List.map_cons, List.foldl_cons, hstep, ih hes]
    rfl

/-- A complete table, laid over any other, is what comes of it. -/
theorem customize_of_complete {table : TemplateTable} (h : table.Complete) (t : TemplateTable) :
    t.customize { click := table.click, input := table.input, assertions := byName table.assertions } =
      table := by
  obtain ⟨click, hclick, hclickText⟩ := h.click
  obtain ⟨input, hinput, hinputText⟩ := h.input
  have hassertions : ∀ d : Dictionary AssertionKind Text,
      d.insertAll table.assertions.entries = table.assertions := by
    intro d
    refine Dictionary.ext_get? fun k => ?_
    obtain ⟨x, hx⟩ := Option.isSome_iff_exists.mp (h.assertions k)
    rw [Dictionary.get?_insertAll table.assertions.ascending, hx]
    rw [Dictionary.get?] at hx
    rw [hx]
    rfl
  rw [Text.NonBlank] at hclickText hinputText
  rw [TemplateTable.customize, byName, foldl_byName h.nonBlank]
  simp only [hassertions, hclick, hinput, Option.bind_some, hclickText, hinputText, Option.some_or]
  rw [← hclick, ← hinput]

/-- **Settled settings settle to themselves**, written as a user would write them. -/
theorem resolve_asUser (user : Option UserSettings) :
    (ofUser user).asUser.resolve = ofUser user := by
  have htemplates := fun t => customize_of_complete (complete_ofUser user) t
  rw [UserSettings.resolve, asUser]
  simp only [Framework.ofSetting_name, htemplates]

end Settings

end Cuesheet
