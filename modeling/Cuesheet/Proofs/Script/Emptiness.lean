import Cuesheet.Proofs.Script.Assembly
import Cuesheet.Proofs.Script.Lookup
import Cuesheet.Proofs.Settings.Slot

/-!
Scripts without any text.

A script holds its frame, an echo or some code, and two actions are at least parted by the end of a line.
So only one thing leaves a script empty: a single action on the page itself, without an instruction, by a
template of the user's that comes to nothing when it is filled (`generate_eq_nil_iff`). Such a template
holds no character but those of placeholders, and something that is filled in is empty. The templates of
the frameworks always leave something.
-/

namespace Cuesheet

/-! ### What is left of a template -/

namespace Template

variable {template locator selector : Text} {value : Option Text}

theorem mem_render_of_mem {c : Char} (hc : ∀ p : Placeholder, c ∉ p.mark) (h : c ∈ template) :
    c ∈ render template locator selector value := by
  have hfill : ∀ (p : Placeholder) (filling : Text) {t : Text}, c ∈ t → c ∈ Text.fill p.mark filling t :=
    fun p filling _ ht => Text.mem_fill_of_mem (Script.tidy_mark p).1 (hc p) filling ht
  have hline := hfill .selector selector (hfill .locator locator h)
  cases value with
  | none => exact hline
  | some v => exact hfill .value v hline

/-- If nothing is left of a template, it holds no character but those of placeholders. -/
theorem exists_mark_of_render_eq_nil (h : render template locator selector value = []) :
    ∀ c ∈ template, ∃ p : Placeholder, c ∈ p.mark := by
  intro c hc
  by_contra hnone
  have hmem : c ∈ render template locator selector value :=
    mem_render_of_mem (fun p hp => hnone ⟨p, hp⟩) hc
  rw [h] at hmem
  exact absurd hmem List.not_mem_nil

/-- If nothing is left of a template, something that was filled in is empty. -/
theorem exists_nil_of_render_eq_nil (hne : template ≠ [])
    (h : render template locator selector value = []) :
    locator = [] ∨ selector = [] ∨ value = some [] := by
  have hfill : ∀ (p : Placeholder) {filling t : Text}, Text.fill p.mark filling t = [] →
      t = [] ∨ filling = [] :=
    fun p _ _ => Text.eq_nil_of_fill_eq_nil (Script.tidy_mark p).1
  have hline : Text.fill Placeholder.selector.mark selector
      (Text.fill Placeholder.locator.mark locator template) = [] → locator = [] ∨ selector = [] := by
    intro hline
    rcases hfill .selector hline with hlocator | hselector
    · exact .inl ((hfill .locator hlocator).resolve_left hne)
    · exact .inr hselector
  cases value with
  | none => exact (hline h).imp_right .inl
  | some v =>
    rcases hfill .value h with hempty | rfl
    · exact (hline hempty).imp_right .inl
    · exact .inr (.inr rfl)

end Template

/-! ### The template of an action -/

/-- The template a user typed for an action, if it is more than blanks: that of the assertion asked for,
or else that of the interaction. -/
def UserTemplates.typedFor? (u : UserTemplates) (a : Action) : Option Text :=
  match a.assertion? with
  | none =>
    match a.interaction with
    | .click => u.click.bind Text.nonBlank?
    | .input _ => u.input.bind Text.nonBlank?
  | some request => u.offer? request.kind

theorem UserTemplates.trim_ne_nil_of_typedFor? {u : UserTemplates} {a : Action} {t : Text}
    (h : u.typedFor? a = some t) : Text.trim t ≠ [] := by
  have hnonBlank : ∀ typed : Option Text, typed.bind Text.nonBlank? = some t → Text.trim t ≠ [] := by
    intro typed htyped
    obtain ⟨x, -, hx⟩ := Option.bind_eq_some_iff.mp htyped
    obtain ⟨hne, rfl⟩ := Text.nonBlank?_eq_some_iff.mp hx
    exact hne
  cases hrequest : a.assertion? with
  | none =>
    simp only [typedFor?, hrequest] at h
    cases hkind : a.interaction <;> exact hnonBlank _ (by simpa only [hkind] using h)
  | some request =>
    simp only [typedFor?, hrequest] at h
    obtain ⟨e, hprevails, rfl⟩ := exists_prevails_of_offer? h
    exact hprevails.serves.2

namespace Script

/-- The template an action is written by. -/
def templateFor (t : TemplateTable) (a : Action) : Text :=
  match a.assertion? with
  | none =>
    match a.interaction with
    | .click => t.forClick
    | .input _ => t.forInput
  | some request => t.forAssertion request.kind

/-- No instruction is given with the action. -/
def Wordless (a : Action) : Prop := ∀ request, a.assertion? = some request → request.instruction = none

/-- On the page itself an action is written by the template that was typed for it, or else by that of
plain scripting. -/
theorem templateFor_resolve {u : UserSettings} (h : u.resolve.framework = .plain) (a : Action) :
    templateFor u.resolve.templates a =
      (u.templates.typedFor? a).getD (templateFor Target.plain.templates a) := by
  have htable : u.resolve.templates = Target.plain.templates.customize u.templates := by
    show (u.resolve.framework.target.templates).customize u.templates = _
    rw [h]
    rfl
  have hor : ∀ (x : Option Text) (y z : Text), (x.or (some y)).getD z = x.getD y := by
    intro x y z
    cases x <;> rfl
  obtain ⟨hclick, hinput, hkinds⟩ := Target.plain.templates.customize_slots u.templates
  rw [htable]
  cases hrequest : a.assertion? with
  | none =>
    simp only [templateFor, UserTemplates.typedFor?, hrequest]
    cases a.interaction with
    | click => exact (congrArg (·.getD TemplateTable.defaultClick) hclick).trans (hor ..)
    | input => exact (congrArg (·.getD TemplateTable.defaultInput) hinput).trans (hor ..)
  | some request =>
    simp only [templateFor, UserTemplates.typedFor?, hrequest]
    obtain ⟨x, hx⟩ : ∃ x, Target.plain.templates.assertions.get? request.kind = some x :=
      Option.isSome_iff_exists.mp ((TemplateTable.complete_templates .plain).assertions _)
    have hdefault : Target.plain.templates.forAssertion request.kind = x := by
      rw [TemplateTable.forAssertion, hx]
      rfl
    rw [hdefault, TemplateTable.forAssertion, hkinds, hx]
    cases u.templates.offer? request.kind <;> rfl

/-- The templates of plain scripting hold more than placeholders. -/
theorem exists_other_of_plain (a : Action) :
    ∃ c ∈ templateFor Target.plain.templates a, ∀ p : Placeholder, c ∉ p.mark := by
  have hspace : ∀ p : Placeholder, ' ' ∉ p.mark := fun p => by cases p <;> decide
  have hdot : ∀ p : Placeholder, '.' ∉ p.mark := fun p => by cases p <;> decide
  have hkinds : ∀ kind, ' ' ∈ Target.plain.templates.forAssertion kind := fun kind => by
    cases kind <;> decide
  cases hrequest : a.assertion? with
  | none =>
    simp only [templateFor, hrequest]
    cases a.interaction with
    | click => exact ⟨'.', by decide, hdot⟩
    | input => exact ⟨'.', show '.' ∈ Target.plain.templates.forInput by decide, hdot⟩
  | some request =>
    simp only [templateFor, hrequest]
    exact ⟨' ', hkinds request.kind, hspace⟩

/-- Where no instruction can be said, code is missing only if there is none to say and nothing is left of
the template. -/
theorem step_eq_nil_iff {s : Settings} (h : s.framework = .plain) (a : Action) :
    step s a = [] ↔ Wordless a ∧
      Template.render (templateFor s.templates a) (Locator.resolve .plain s.locators a.selector)
        a.selector a.value? = [] := by
  cases hrequest : a.assertion? with
  | none =>
    simp only [step, templateFor, Wordless, hrequest, h]
    cases a.interaction with
    | click => simp
    | input => simp
  | some request =>
    cases hwords : request.instruction with
    | none => simp [step, templateFor, Wordless, hrequest, hwords, h]
    | some i =>
      have hnone : ∀ e : Element, Instruction.compile Instruction.defaultCeiling .plain e i = none := by
        intro e
        rw [Instruction.compile]
        cases Instruction.read Instruction.defaultCeiling i <;> rfl
      simp [step, Wordless, hrequest, hwords, h, hnone]

/-! ### Scripts -/

theorem stepLines_eq_singleton_nil_iff {s : Settings} {a : Action} :
    stepLines s a = [[]] ↔ step s a = [] := by
  rw [stepLines]
  split
  next h => simp [h]
  next h =>
    refine ⟨fun hlines => absurd hlines fun hlines => ?_, fun hnil => absurd hnil h⟩
    obtain ⟨l, hl⟩ := List.exists_mem_of_ne_nil _ (Text.lines_ne_nil h)
    have hmem := List.mem_map_of_mem (f := fun l : Text => ("  " : Text) ++ l) hl
    rw [hlines, List.mem_singleton] at hmem
    exact absurd hmem (by simp)

/-- Only plain scripts have no lines before the first step. -/
theorem length_header_pos {f : Framework} (h : f ≠ .plain) : 0 < f.target.header.length := by
  cases f with
  | plain => exact absurd rfl h
  | playwright | cypress | selenium => decide

/-- A script under settings is empty only if a single action on the page itself has no code. -/
theorem configured_eq_nil_iff {s : Settings} {actions : List Action} :
    configured s actions = [] ↔
      s.framework = .plain ∧ ∃ a, actions = [a] ∧ step s a = [] := by
  by_cases hne : actions = []
  · subst hne
    have hsome : configured s [] ≠ [] := show noActions ≠ [] by decide
    simp [hsome]
  · obtain ⟨a, rest, rfl⟩ := List.exists_cons_of_ne_nil hne
    have hfirst := List.length_pos_iff.mpr (stepLines_ne_nil s a)
    rw [configured_eq_stack hne, Text.stack_eq_nil_iff]
    by_cases hf : s.framework = .plain
    · have hframe : Framework.plain.target.header = [] ∧ Framework.plain.target.footer = [] := ⟨rfl, rfl⟩
      have hrest : rest.flatMap (stepLines s) = [] ↔ rest = [] := by
        refine ⟨fun h => List.eq_nil_iff_forall_not_mem.mpr fun b hb => ?_, fun h => h ▸ rfl⟩
        exact stepLines_ne_nil s b (List.flatMap_eq_nil_iff.mp h b hb)
      obtain ⟨l, ls, hl⟩ := List.exists_cons_of_ne_nil (stepLines_ne_nil s a)
      have ha : step s a = [] ↔ l = [] ∧ ls = [] := by
        rw [← stepLines_eq_singleton_nil_iff, hl]
        simp
      rw [hf, hframe.1, hframe.2, List.nil_append, List.append_nil, List.flatMap_cons, hl]
      simp [hrest, ha, and_assoc, and_comm, and_left_comm]
    · refine ⟨fun hnil => ?_, fun h => absurd h.1 hf⟩
      have hheader := length_header_pos hf
      rcases hnil with hnil | hnil
      · have := congrArg List.length hnil
        simp only [List.length_append, List.length_nil] at this
        omega
      · have := congrArg List.length hnil
        simp only [List.length_append, List.flatMap_cons, List.length_singleton] at this
        omega

/-- Without settings every action has code. -/
theorem literal_ne_nil (actions : List Action) : literal actions ≠ [] := by
  by_cases hne : actions = []
  · subst hne
    decide
  · obtain ⟨a, rest, rfl⟩ := List.exists_cons_of_ne_nil hne
    have hcode := (endsInLine_plainStep a).ne_nil
    rw [literal_eq_stack hne, ne_eq, Text.stack_eq_nil_iff, List.flatMap_cons, literalStep_eq]
    simp [hcode]

/-- What a plain script puts for an element is empty only where the user's expression for it is. -/
theorem resolve_plain_eq_nil_iff {locators : Locators} {selector : Text} :
    Locator.resolve .plain locators selector = [] ↔ locators.get? selector = some [] := by
  show (locators.get? selector).getD (Locator.query selector) = [] ↔ _
  cases locators.get? selector with
  | some expression => simp
  | none =>
    exact ⟨fun h => absurd h (List.cons_ne_nil _ _), fun h => absurd h (Option.some_ne_none _).symm⟩

/-- The user's template `t`, by which the action is written on the page itself, comes to nothing: it
holds no character but those of placeholders, something that is filled in is empty, and filling leaves
nothing. -/
structure Emptied (u : UserSettings) (a : Action) (t : Text) : Prop where
  plain : u.resolve.framework = .plain
  wordless : Wordless a
  typed : u.templates.typedFor? a = some t
  marks : ∀ c ∈ t, ∃ p : Placeholder, c ∈ p.mark
  empty : u.locators.get? a.selector = some [] ∨ a.selector = [] ∨ a.value? = some []
  filled : Template.render t (Locator.resolve .plain u.locators a.selector) a.selector a.value? = []

/-- **A script is empty only if it is a single action's, and the template the user typed for it comes to
nothing.** -/
theorem generate_eq_nil_iff (user : Option UserSettings) (actions : List Action) :
    generate user actions = [] ↔
      ∃ u a t, user = some u ∧ actions = [a] ∧ Emptied u a t := by
  constructor
  · intro h
    cases user with
    | none => exact absurd h (literal_ne_nil actions)
    | some u =>
      obtain ⟨hplain, a, rfl, hstep⟩ := configured_eq_nil_iff.mp h
      obtain ⟨hwordless, hfilled⟩ := (step_eq_nil_iff hplain a).mp hstep
      have hmarks := Template.exists_mark_of_render_eq_nil hfilled
      cases htyped : u.templates.typedFor? a with
      | none =>
        rw [templateFor_resolve hplain, htyped, Option.getD_none] at hmarks
        obtain ⟨c, hc, hother⟩ := exists_other_of_plain a
        obtain ⟨p, hp⟩ := hmarks c hc
        exact absurd hp (hother p)
      | some t =>
        rw [templateFor_resolve hplain, htyped, Option.getD_some] at hfilled hmarks
        have hne : t ≠ [] := by
          rintro rfl
          exact UserTemplates.trim_ne_nil_of_typedFor? htyped rfl
        have hempty := Template.exists_nil_of_render_eq_nil hne hfilled
        rw [resolve_plain_eq_nil_iff] at hempty
        exact ⟨u, a, t, rfl, rfl, hplain, hwordless, htyped, hmarks, hempty, hfilled⟩
  · rintro ⟨u, a, t, rfl, rfl, h⟩
    have hstep : step u.resolve a = [] := by
      refine (step_eq_nil_iff h.plain a).mpr ⟨h.wordless, ?_⟩
      rw [templateFor_resolve h.plain, h.typed, Option.getD_some]
      exact h.filled
    exact configured_eq_nil_iff.mpr ⟨h.plain, a, rfl, hstep⟩

/-- So not every script holds some text: a template may be no more than the value of an input, which may
be empty. -/
theorem not_forall_generate_ne_nil :
    ¬ ∀ (user : Option UserSettings) (actions : List Action), generate user actions ≠ [] :=
  fun h => h (some { templates.input := some "\x7bvalue\x7d" }) [.input "#a" ""] (by decide +kernel)

/-- A template that is no row of placeholders comes to nothing too: with the locator filled in, what
stands around it is the mark of the selector. -/
example : generate
    (some { locators := .ofList [("", "")]
            templates.click := some "\x7bsel\x7blocator\x7dector\x7d" }) [.click ""] = [] := by
  decide +kernel

end Script

end Cuesheet
