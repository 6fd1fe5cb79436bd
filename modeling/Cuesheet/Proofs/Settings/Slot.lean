import Cuesheet.Proofs.Settings
import Cuesheet.Proofs.Text.Blank

/-!
What each slot of the settings comes to.

Every template of resolved settings is what the user typed, if that is more than blanks, and otherwise
the default of the framework. An assertion may be typed under several spellings of its kind: the entry
with the greatest key prevails among those that say something (`Prevails`), since entries are laid over
the table in the order of their keys. So no slot stays open, none is blank, and laying the same templates
over the table again changes nothing (`resolve_settled`).
-/

namespace Cuesheet

theorem Text.nonBlank_iff_trim_ne_nil {t : Text} : t.NonBlank ↔ trim t ≠ [] := by
  rw [nonBlank_iff, isBlankText, ← Bool.not_eq_true, List.all_eq_true, ne_eq, trim_eq_nil_iff]

theorem Text.nonBlank?_eq_some_iff {t u : Text} : nonBlank? t = some u ↔ trim t ≠ [] ∧ u = t := by
  rw [← nonBlank_iff_trim_ne_nil, nonBlank_iff, nonBlank?]
  cases isBlankText t <;> simp [eq_comm]

/-! ### One slot -/

/-- A slot holds what was typed for it, if that is more than blanks, and otherwise the default. -/
def Chosen (typed default slot : Option Text) : Prop :=
  (∃ t, typed = some t ∧ Text.trim t ≠ [] ∧ slot = some t) ∨
    (∀ t, typed = some t → Text.trim t = []) ∧ slot = default

theorem chosen_or (typed default : Option Text) :
    Chosen typed default ((typed.bind Text.nonBlank?).or default) := by
  cases hsaid : typed.bind Text.nonBlank? with
  | some u =>
    obtain ⟨t, htyped, ht⟩ := Option.bind_eq_some_iff.mp hsaid
    obtain ⟨hne, rfl⟩ := Text.nonBlank?_eq_some_iff.mp ht
    exact .inl ⟨u, htyped, hne, rfl⟩
  | none =>
    refine .inr ⟨fun t htyped => ?_, rfl⟩
    by_contra hne
    rw [htyped, Option.bind_some, Text.nonBlank?_eq_some_iff.mpr ⟨hne, rfl⟩] at hsaid
    cases hsaid

/-! ### Entries of one kind -/

/-- An entry serves a kind of assertion: its key spells the kind and its template is more than blanks. -/
def Serves (kind : AssertionKind) (e : Text × Text) : Prop :=
  AssertionKind.ofKey? e.1 = some kind ∧ Text.trim e.2 ≠ []

/-- Of the entries that serve a kind the one with the greatest key. -/
structure Prevails (entries : List (Text × Text)) (kind : AssertionKind) (e : Text × Text) : Prop where
  mem : e ∈ entries
  serves : Serves kind e
  greatest : ∀ e' ∈ entries, Serves kind e' → e' = e ∨ compare e'.1 e.1 = .lt

namespace UserTemplates

variable {kind : AssertionKind}

/-- The template that an entry has for a kind, if it serves the kind. -/
def offered? (kind : AssertionKind) (e : Text × Text) : Option Text :=
  if AssertionKind.ofKey? e.1 = some kind then Text.nonBlank? e.2 else none

/-- What the user's templates have for a kind: that of the last entry to serve it. -/
def offer? (user : UserTemplates) (kind : AssertionKind) : Option Text :=
  user.assertions.entries.reverse.findSome? (offered? kind)

theorem offered?_eq_some_iff {e : Text × Text} {x : Text} :
    offered? kind e = some x ↔ Serves kind e ∧ x = e.2 := by
  rw [offered?, Serves]
  split
  next hk => simp only [Text.nonBlank?_eq_some_iff, hk, true_and]
  next hk => simp only [hk, false_and, reduceCtorEq]

theorem not_serves_of_offered?_eq_none {e : Text × Text} (h : offered? kind e = none) :
    ¬ Serves kind e := fun hserves => by
  rw [offered?_eq_some_iff.mpr ⟨hserves, rfl⟩] at h
  cases h

theorem not_serves_of_offer?_eq_none {user : UserTemplates} (h : user.offer? kind = none) :
    ∀ e ∈ user.assertions.entries, ¬ Serves kind e := fun e he =>
  not_serves_of_offered?_eq_none (List.findSome?_eq_none_iff.mp h e (List.mem_reverse.mpr he))

/-- What the templates have for a kind is that of an entry behind which no other serves the kind. -/
theorem exists_last_of_offer? {user : UserTemplates} {x : Text} (h : user.offer? kind = some x) :
    ∃ before e behind, user.assertions.entries = before ++ e :: behind ∧ Serves kind e ∧ x = e.2 ∧
      ∀ e' ∈ behind, ¬ Serves kind e' := by
  obtain ⟨behind, e, before, hentries, hoffered, hbehind⟩ := List.findSome?_eq_some_iff.mp h
  obtain ⟨hserves, hx⟩ := offered?_eq_some_iff.mp hoffered
  refine ⟨before.reverse, e, behind.reverse, ?_, hserves, hx, fun e' he' => ?_⟩
  · rw [← List.reverse_reverse user.assertions.entries, hentries, List.reverse_append,
      List.reverse_cons, List.append_assoc, List.singleton_append]
  · exact not_serves_of_offered?_eq_none (hbehind e' (List.mem_reverse.mp he'))

/-- The last entry to serve a kind has the greatest key, since keys ascend. -/
theorem exists_prevails_of_offer? {user : UserTemplates} {x : Text} (h : user.offer? kind = some x) :
    ∃ e, Prevails user.assertions.entries kind e ∧ x = e.2 := by
  obtain ⟨before, e, behind, hentries, hserves, hx, hlast⟩ := exists_last_of_offer? h
  have hascending := user.assertions.ascending
  rw [hentries] at hascending ⊢
  have hless := (List.pairwise_append.mp hascending).2.2
  refine ⟨e, ⟨List.mem_append_right before (List.mem_cons_self ..), hserves, ?_⟩, hx⟩
  intro e' he' hserves'
  rcases List.mem_append.mp he' with hbefore | hrest
  · exact .inr (hless e' hbefore e (List.mem_cons_self ..))
  · rcases List.mem_cons.mp hrest with heq | hbehind
    · exact .inl heq
    · exact absurd hserves' (hlast e' hbehind)

end UserTemplates

/-! ### Templates laid over a table -/

namespace TemplateTable

open UserTemplates

/-- Every slot of a table. -/
def slots (t : TemplateTable) : List (Option Text) :=
  [t.click, t.input] ++ AssertionKind.all.map t.assertions.get?

/-- A table is known by its slots. -/
theorem ext_slots {s t : TemplateTable} (hclick : s.click = t.click) (hinput : s.input = t.input)
    (h : ∀ kind, s.assertions.get? kind = t.assertions.get? kind) : s = t := by
  obtain ⟨_, _, sAssertions⟩ := s
  obtain ⟨_, _, tAssertions⟩ := t
  obtain rfl : sAssertions = tAssertions := Dictionary.ext_get? h
  obtain rfl := hclick
  obtain rfl := hinput
  rfl

/-- One entry changes the assertions only, and of them that of the kind it serves. -/
theorem exists_customizeAssertion (t : TemplateTable) (e : Text × Text) :
    ∃ d, t.customizeAssertion e.1 e.2 = { t with assertions := d } ∧
      ∀ kind, d.get? kind = (offered? kind e).or (t.assertions.get? kind) := by
  rw [customizeAssertion]
  cases hkey : AssertionKind.ofKey? e.1 with
  | none => exact ⟨t.assertions, rfl, fun kind => by rw [offered?, hkey]; rfl⟩
  | some spelled =>
    cases htemplate : Text.nonBlank? e.2 with
    | none => exact ⟨t.assertions, rfl, fun kind => by rw [offered?, htemplate, ite_self]; rfl⟩
    | some x =>
      refine ⟨t.assertions.insert spelled x, rfl, fun kind => ?_⟩
      rw [offered?, hkey, htemplate]
      by_cases hk : spelled = kind
      · rw [hk, if_pos rfl]
        exact Dictionary.get?_insert_self ..
      · rw [if_neg fun h => hk (Option.some.inj h)]
        exact Dictionary.get?_insert_of_ne _ (Ne.symm hk) x

/-- Of entries laid over a table one after the other the last to serve a kind decides. -/
theorem exists_foldl (es : List (Text × Text)) (t : TemplateTable) :
    ∃ d, es.foldl (fun t e => t.customizeAssertion e.1 e.2) t = { t with assertions := d } ∧
      ∀ kind, d.get? kind =
        (es.reverse.findSome? (offered? kind)).or (t.assertions.get? kind) := by
  induction es generalizing t with
  | nil => exact ⟨t.assertions, rfl, fun _ => rfl⟩
  | cons e es ih =>
    obtain ⟨d, hstep, hd⟩ := t.exists_customizeAssertion e
    obtain ⟨d', hrun, hd'⟩ := ih { t with assertions := d }
    refine ⟨d', by rw [List.foldl_cons, hstep, hrun], fun kind => ?_⟩
    rw [hd', hd, List.reverse_cons, List.findSome?_append, List.findSome?_singleton,
      Option.or_assoc]

variable (t : TemplateTable) (user : UserTemplates)

/-- What each slot comes to under a user's templates. -/
theorem customize_slots :
    (t.customize user).click = (user.click.bind Text.nonBlank?).or t.click ∧
      (t.customize user).input = (user.input.bind Text.nonBlank?).or t.input ∧
      ∀ kind, (t.customize user).assertions.get? kind =
        (user.offer? kind).or (t.assertions.get? kind) := by
  obtain ⟨d, htable, hd⟩ := exists_foldl user.assertions.entries
    { t with
      click := (user.click.bind Text.nonBlank?).or t.click
      input := (user.input.bind Text.nonBlank?).or t.input }
  rw [customize, htable]
  exact ⟨rfl, rfl, hd⟩

/-- Laying the same templates over a table again changes nothing. -/
theorem customize_customize : (t.customize user).customize user = t.customize user := by
  have hor : ∀ a b : Option Text, a.or (a.or b) = a.or b := fun a b => by cases a <;> rfl
  obtain ⟨hclick, hinput, hkinds⟩ := t.customize_slots user
  obtain ⟨hclick', hinput', hkinds'⟩ := (t.customize user).customize_slots user
  refine ext_slots ?_ ?_ fun kind => ?_
  · rw [hclick', hclick, hor]
  · rw [hinput', hinput, hor]
  · rw [hkinds', hkinds, hor]

variable {t}

theorem Complete.exists_of_mem_slots (h : t.Complete) {slot : Option Text} (hslot : slot ∈ t.slots) :
    ∃ x, slot = some x ∧ Text.trim x ≠ [] := by
  rcases List.mem_append.mp hslot with hfields | hkinds
  · rcases List.mem_cons.mp hfields with rfl | hinput
    · exact h.click.imp fun _ => And.imp_right Text.nonBlank_iff_trim_ne_nil.mp
    · rw [List.mem_singleton.mp hinput]
      exact h.input.imp fun _ => And.imp_right Text.nonBlank_iff_trim_ne_nil.mp
  · obtain ⟨kind, -, rfl⟩ := List.mem_map.mp hkinds
    obtain ⟨x, hx⟩ := Option.isSome_iff_exists.mp (h.assertions kind)
    exact ⟨x, hx, Text.nonBlank_iff_trim_ne_nil.mp (h.nonBlank _ (Dictionary.mem_of_lookup hx))⟩

/-- A complete table has the assertions of every kind, and in the order of the kinds. -/
theorem Complete.keys (h : t.Complete) : t.assertions.keys = AssertionKind.all := by
  obtain ⟨present, hpresent⟩ := Option.isSome_iff_exists.mp (h.assertions .present)
  obtain ⟨hasText, hhasText⟩ := Option.isSome_iff_exists.mp (h.assertions .hasText)
  obtain ⟨valueIs, hvalueIs⟩ := Option.isSome_iff_exists.mp (h.assertions .valueIs)
  have hentries : t.assertions =
      .ofList [(.present, present), (.hasText, hasText), (.valueIs, valueIs)] := by
    refine Dictionary.ext_get? fun kind => ?_
    cases kind with
    | present => exact hpresent
    | hasText => exact hhasText
    | valueIs => exact hvalueIs
  rw [hentries]
  rfl

end TemplateTable

/-! ### Settings -/

theorem Framework.mem_all (f : Framework) : f ∈ all := by
  cases f <;> decide

/-- A framework is that of the typed name, if there is one, and plain scripting otherwise. -/
theorem Framework.ofSetting_cases (setting : Option Text) :
    (∃ typed, setting = some typed ∧ (ofSetting setting).name = Text.lower (Text.trim typed)) ∨
      (∀ typed, setting = some typed → ∀ f : Framework, f.name ≠ Text.lower (Text.trim typed)) ∧
        ofSetting setting = plain := by
  cases setting with
  | none => exact .inr ⟨by simp, rfl⟩
  | some typed =>
    rw [ofSetting]
    cases hnamed : withName? (Text.lower (Text.trim typed)) with
    | some f => exact .inl ⟨typed, rfl, by simpa using List.find?_some hnamed⟩
    | none =>
      refine .inr ⟨fun u hu f => ?_, rfl⟩
      rw [← Option.some.inj hu]
      simpa using List.find?_eq_none.mp hnamed f f.mem_all

/-- What settings come to from what the user wrote. -/
structure Settled (user : UserSettings) (s : Settings) : Prop where
  framework : (∃ typed, user.framework = some typed ∧
      s.framework.name = Text.lower (Text.trim typed)) ∨
    (∀ typed, user.framework = some typed →
      ∀ f : Framework, f.name ≠ Text.lower (Text.trim typed)) ∧ s.framework = .plain
  locators : s.locators = user.locators
  click : Chosen user.templates.click s.framework.target.templates.click s.templates.click
  input : Chosen user.templates.input s.framework.target.templates.input s.templates.input
  assertions : ∀ kind,
    (∃ e, Prevails user.templates.assertions.entries kind e ∧
      s.templates.assertions.get? kind = some e.2) ∨
    (∀ e ∈ user.templates.assertions.entries, ¬ Serves kind e) ∧
      s.templates.assertions.get? kind = s.framework.target.templates.assertions.get? kind
  complete : ∀ slot ∈ s.templates.slots, ∃ x, slot = some x ∧ Text.trim x ≠ []
  keys : s.templates.assertions.keys = AssertionKind.all
  again : s.templates.customize user.templates = s.templates

/-- **Settings settle every slot**: with what the user typed where it says something, and with the
default of the framework everywhere else. -/
theorem resolve_settled (user : UserSettings) : Settled user user.resolve := by
  have hcomplete : user.resolve.templates.Complete := Settings.complete_ofUser (some user)
  obtain ⟨hclick, hinput, hkinds⟩ :=
    user.resolve.framework.target.templates.customize_slots user.templates
  refine
    { framework := Framework.ofSetting_cases user.framework
      locators := rfl
      click := hclick ▸ chosen_or ..
      input := hinput ▸ chosen_or ..
      assertions := fun kind => ?_
      complete := fun slot => hcomplete.exists_of_mem_slots
      keys := hcomplete.keys
      again := TemplateTable.customize_customize .. }
  have hslot := hkinds kind
  cases hoffer : user.templates.offer? kind with
  | some x =>
    rw [hoffer] at hslot
    obtain ⟨e, hprevails, rfl⟩ := UserTemplates.exists_prevails_of_offer? hoffer
    exact .inl ⟨e, hprevails, hslot⟩
  | none =>
    rw [hoffer] at hslot
    exact .inr ⟨UserTemplates.not_serves_of_offer?_eq_none hoffer, hslot⟩

-- Of three spellings of one kind the greatest says nothing, so the one before it prevails.
example : (UserSettings.resolve
    { templates.assertions := .ofList [("has_text", " "), ("has text", "a"), ("Has-Text", "b")] }
    ).templates.assertions.get? .hasText = some "a" := by
  decide +kernel

end Cuesheet
