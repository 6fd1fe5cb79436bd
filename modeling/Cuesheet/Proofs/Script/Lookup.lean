import Cuesheet.Proofs.Script.Plain
import Cuesheet.Proofs.Script.StringLiteral

/-!
Scripts of clicks, read back.

Without settings a click is one line that looks its element up, and an assertion that is asked for adds
a comment below it. The selector stands in the look-up as a string literal that says it, so the lines
tell the selectors and where an assertion was asked for, and nothing in a selector can break a line
(`lookups_lossless`).
-/

namespace Cuesheet.Script

theorem query_inj {s t : Text} : Locator.query s = Locator.query t ↔ s = t := by
  refine ⟨fun h => ?_, congrArg _⟩
  exact scriptString_inj.mp (List.append_cancel_left (List.append_cancel_right h))

theorem inline_query (selector : Text) : Inline (Locator.query selector) := by
  have hquoted : Inline (Text.scriptString selector) :=
    fun _ hc => (printable_of_mem_scriptString hc).2
  exact (Inline.append (by decide) hquoted).append (by decide)

variable {a b : Action}

theorem literalStep_eq (a : Action) :
    literalStep a = plainStep a :: if a.asserts then [unsupportedAssertion] else [] := by
  rw [literalStep, plainStep]
  cases a.interaction <;> cases a.asserts <;> simp

theorem plainStep_click (ha : a.interaction = .click) :
    plainStep a = Locator.query a.selector ++ ".click();" := by
  rw [plainStep, ha]

theorem inline_of_mem_literalStep (ha : a.interaction = .click) {l : Text} (h : l ∈ literalStep a) :
    Inline l := by
  rw [literalStep_eq, plainStep_click ha, List.mem_cons] at h
  rcases h with rfl | h
  · exact (inline_query a.selector).append (by decide)
  · split at h
    next =>
      obtain rfl := List.mem_singleton.mp h
      decide
    next => exact absurd h List.not_mem_nil

/-- The comment for an assertion is the line of no action. -/
theorem plainStep_ne_unsupported (ha : a.interaction = .click) : plainStep a ≠ unsupportedAssertion := by
  rw [plainStep_click ha]
  intro h
  exact absurd (List.cons.inj h).1 (by decide)

/-- The script without settings, as lines. -/
theorem literal_eq_stack {actions : List Action} (hne : actions ≠ []) :
    literal actions = Text.stack (actions.flatMap literalStep) := by
  obtain ⟨a, rest, rfl⟩ := List.exists_cons_of_ne_nil hne
  rfl

theorem sourceLines_clicks {actions : List Action} (hne : actions ≠ [])
    (hclick : ∀ a ∈ actions, a.interaction = .click) :
    sourceLines (literal actions) = actions.flatMap literalStep := by
  rw [literal_eq_stack hne]
  refine sourceLines_stack ?_ fun l hl => ?_
  · obtain ⟨a, rest, rfl⟩ := List.exists_cons_of_ne_nil hne
    rw [List.flatMap_cons, literalStep_eq]
    exact List.cons_ne_nil _ _
  · obtain ⟨a, ha, hl⟩ := List.mem_flatMap.mp hl
    exact inline_of_mem_literalStep (hclick a ha) hl

theorem length_literalSteps (actions : List Action) :
    (actions.flatMap literalStep).length = actions.length + actions.countP (·.asserts) := by
  induction actions with
  | nil => rfl
  | cons a actions ih =>
    rw [List.flatMap_cons, List.length_append, ih, literalStep_eq, List.countP_cons]
    cases a.asserts <;> simp <;> omega

/-- The lines of clicks do not begin with the comment for an assertion. -/
theorem head?_literalSteps {actions : List Action} (hclick : ∀ a ∈ actions, a.interaction = .click) :
    (actions.flatMap literalStep).head? ≠ some unsupportedAssertion := by
  cases actions with
  | nil => exact Option.some_ne_none _ |>.symm
  | cons a actions =>
    rw [List.flatMap_cons, literalStep_eq]
    exact fun h => plainStep_ne_unsupported (hclick a (List.mem_cons_self ..)) (Option.some.inj h)

/-- The lines of clicks tell their selectors and where an assertion is asked for. -/
theorem map_eq_of_literalSteps {xs ys : List Action} (hxs : ∀ a ∈ xs, a.interaction = .click)
    (hys : ∀ a ∈ ys, a.interaction = .click)
    (h : xs.flatMap literalStep = ys.flatMap literalStep) :
    xs.map (fun a => (a.selector, a.asserts)) = ys.map (fun a => (a.selector, a.asserts)) := by
  induction xs generalizing ys with
  | nil =>
    cases ys with
    | nil => rfl
    | cons b ys => simp [literalStep_eq] at h
  | cons a xs ih =>
    cases ys with
    | nil => simp [literalStep_eq] at h
    | cons b ys =>
      obtain ⟨ha, hxs⟩ := List.forall_mem_cons.mp hxs
      obtain ⟨hb, hys⟩ := List.forall_mem_cons.mp hys
      rw [List.flatMap_cons, List.flatMap_cons, literalStep_eq, literalStep_eq, List.cons_append,
        List.cons_append] at h
      obtain ⟨hline, hrest⟩ := List.cons.inj h
      rw [plainStep_click ha, plainStep_click hb] at hline
      have hselector : a.selector = b.selector := query_inj.mp (List.append_cancel_right hline)
      -- The comment is there on both sides or on neither: no click has it for its line.
      have hflag : a.asserts = b.asserts ∧ xs.flatMap literalStep = ys.flatMap literalStep := by
        cases hfa : a.asserts <;> cases hfb : b.asserts <;> rw [hfa, hfb] at hrest
        · exact ⟨rfl, hrest⟩
        · exact absurd (congrArg List.head? hrest) (head?_literalSteps hxs)
        · exact absurd (congrArg List.head? hrest).symm (head?_literalSteps hys)
        · exact ⟨rfl, List.append_cancel_left hrest⟩
      rw [List.map_cons, List.map_cons, ih hxs hys hflag.2, hselector, hflag.1]

/-- **Look-ups lose nothing.** A selector stands in its look-up as a string literal that is free of
control characters, line ends and quotes of its own and says exactly the selector. So a script of
clicks has one line for each action and one for each assertion asked for, and it tells the selectors
and where the assertions are asked for. -/
theorem lookups_lossless :
    (∀ selector : Text, ∃ body : Text,
      Locator.query selector = "document.querySelector(\"" ++ body ++ "\")" ∧
        (∀ c ∈ body, Printable c) ∧ QuotesEscaped body ∧ ∀ t, Says body t ↔ t = selector) ∧
    (∀ actions : List Action, actions ≠ [] → (∀ a ∈ actions, a.interaction = .click) →
      sourceLines (generate none actions) = (generate none actions).splitOn '\n' ∧
        (sourceLines (generate none actions)).length =
          actions.length + actions.countP (·.asserts)) ∧
    ∀ xs ys : List Action, xs ≠ [] → ys ≠ [] → (∀ a ∈ xs, a.interaction = .click) →
      (∀ a ∈ ys, a.interaction = .click) → generate none xs = generate none ys →
        xs.map (fun a => (a.selector, a.asserts)) = ys.map (fun a => (a.selector, a.asserts)) := by
  refine ⟨fun selector => ⟨Text.scriptString selector, rfl, ?_, quotesEscaped_scriptString _, ?_⟩,
    fun actions hne hclick => ?_, fun xs ys hxs hys hclicks hclicks' h => ?_⟩
  · exact fun c hc => printable_of_mem_scriptString hc
  · exact fun t => ⟨fun h => h.eq (says_scriptString selector), fun h => h ▸ says_scriptString t⟩
  · have hlines := sourceLines_clicks hne hclick
    refine ⟨?_, hlines ▸ length_literalSteps actions⟩
    show sourceLines (literal actions) = (literal actions).splitOn '\n'
    rw [hlines, literal_eq_stack hne]
    refine (Text.splitOn_stack ?_ fun l hl => ?_).symm
    · exact hlines ▸ sourceLines_ne_nil _
    · obtain ⟨a, ha, hl⟩ := List.mem_flatMap.mp hl
      exact (inline_of_mem_literalStep (hclick a ha) hl).unbroken
  · refine map_eq_of_literalSteps hclicks hclicks' ?_
    rw [← sourceLines_clicks hxs hclicks, ← sourceLines_clicks hys hclicks']
    exact congrArg sourceLines h

/-- A selector with a quote behind a backslash, a control character before a digit and a line separator,
in scripts of actions that differ in what nothing depends on. -/
theorem lookups_lossless_escaped :
    let selector : Text := "a[b=\"\\\"]\x071\u2028"
    let xs : List Action := [{ Action.click selector with asserts := true }, .click "#b"]
    let ys : List Action := [(Action.click selector).instructed "again", (Action.click "#b").tagged "p"]
    (∃ body : Text, Locator.query selector = "document.querySelector(\"" ++ body ++ "\")" ∧
      (∀ c ∈ body, Printable c) ∧ QuotesEscaped body ∧ ∀ t, Says body t ↔ t = selector) ∧
    (xs ≠ [] ∧ ∀ a ∈ xs, a.interaction = .click) ∧ (ys ≠ [] ∧ ∀ a ∈ ys, a.interaction = .click) ∧
    generate none xs = generate none ys ∧
    (sourceLines (generate none xs)).length = 3 ∧
    xs.map (fun a => (a.selector, a.asserts)) = ys.map (fun a => (a.selector, a.asserts)) := by
  intro selector xs ys
  obtain ⟨hselector, hlines, htold⟩ := lookups_lossless
  have hxs : ∀ a ∈ xs, a.interaction = .click := by decide
  have hys : ∀ a ∈ ys, a.interaction = .click := by decide
  have hsame : generate none xs = generate none ys := rfl
  have hne : xs ≠ [] := List.cons_ne_nil _ _
  have hne' : ys ≠ [] := List.cons_ne_nil _ _
  exact ⟨hselector selector, ⟨hne, hxs⟩, ⟨hne', hys⟩, hsame, (hlines xs hne hxs).2,
    htold xs ys hne hne' hxs hys hsame⟩

end Cuesheet.Script
