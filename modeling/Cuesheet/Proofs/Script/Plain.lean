import Cuesheet.Script
import Cuesheet.Proofs.Locator
import Cuesheet.Proofs.Template
import Cuesheet.Proofs.Text.Line

/-!
Scripts of the page itself, with settings and without.

Where nothing is set, an action is written by the default templates of plain scripting; without
settings at all it is written as it is. Both come to one piece of code an action (`plainStep`), unless
a selector holds a mark that is filled after the selector was put in. The code ends within a line, so
moving the pieces right one by one moves the whole script right (`generate_unset`).
-/

namespace Cuesheet.Script

/-- The code of an action on the page itself. -/
def plainStep (a : Action) : Text :=
  match a.interaction with
  | .click => Locator.query a.selector ++ ".click();"
  | .input value => Locator.query a.selector ++ (".value = \"" ++ (value ++ "\";"))

/-- No mark is in the selector that would be filled after it. -/
structure Unmarked (a : Action) : Prop where
  selector : ¬ Placeholder.selector.mark <:+: a.selector
  value : a.interaction.kind = .input → ¬ Placeholder.value.mark <:+: a.selector

variable {a : Action}

/-- Filling passes over the look-up of a selector that lacks the mark. -/
theorem fill_query {p : Placeholder} {selector : Text} (h : ¬ p.mark <:+: selector)
    (filling rest : Text) : Text.fill p.mark filling (Locator.query selector ++ rest) =
      Locator.query selector ++ Text.fill p.mark filling rest := by
  refine Text.fill_append (fun hmark => h (Locator.isInfix_of_isInfix_query hmark)) ?_ filling rest
  intro c hc
  have hquery : Locator.query selector =
      ("document.querySelector(\"" ++ Text.scriptString selector) ++ "\")" := rfl
  obtain rfl : ')' = c := by
    rw [hquery, List.getLast?_append] at hc
    exact Option.some.inj hc
  cases p <;> decide

/-- The default templates say what is said without settings. -/
theorem step_unset (hasserts : a.asserts = false) (h : Unmarked a) :
    step ({} : UserSettings).resolve a = plainStep a := by
  obtain ⟨interaction, tag, selector, timestamp, asserts, assertionType, instruction⟩ := a
  obtain rfl : asserts = false := hasserts
  have hlocator : Locator.resolve ({} : UserSettings).resolve.framework
      ({} : UserSettings).resolve.locators selector = Locator.query selector := rfl
  have hmark : ∀ filling rest : Text, Text.fill Placeholder.locator.mark filling
      (Placeholder.locator.mark ++ rest) = filling ++ Text.fill Placeholder.locator.mark filling rest :=
    Text.fill_mark (by decide)
  cases interaction with
  | click =>
    show Template.render (Placeholder.locator.mark ++ ".click();") _ selector none = _
    rw [hlocator, Template.render, hmark, fill_query h.selector]
    rfl
  | input value =>
    show Template.render (Placeholder.locator.mark ++ ".value = \"\x7bvalue\x7d\";") _ selector
      (some value) = _
    rw [hlocator, Template.render, hmark, fill_query h.selector]
    show Text.fill _ value (Locator.query selector ++ ".value = \"\x7bvalue\x7d\";") = _
    rw [fill_query (h.value rfl)]
    rfl

theorem endsInLine_plainStep (a : Action) : (plainStep a).EndsInLine := by
  refine ⟨';', ?_, by decide, by decide⟩
  rw [plainStep]
  split
  · rw [List.getLast?_append]
    rfl
  · rw [List.getLast?_append, List.getLast?_append, List.getLast?_append]
    rfl

/-- Without settings the script is the code of the actions, one below the other. -/
theorem literal_eq {actions : List Action} (hne : actions ≠ [])
    (hasserts : ∀ a ∈ actions, a.asserts = false) :
    literal actions = Text.stack (actions.map plainStep) := by
  have hsteps : actions.flatMap literalStep = actions.map plainStep := by
    rw [List.map_eq_flatMap]
    refine List.flatMap_congr fun a ha => ?_
    rw [literalStep, hasserts a ha, plainStep]
    cases a.interaction <;> simp
  obtain ⟨a, rest, rfl⟩ := List.exists_cons_of_ne_nil hne
  show Text.stack ((a :: rest).flatMap literalStep) = _
  rw [hsteps]

/-- **The two ways to write plain scripts agree**: where no assertion is asked for and no selector holds
a mark that would be filled after it, the script under settings that set nothing is the script without
settings, moved right. -/
theorem generate_unset {actions : List Action} (hne : actions ≠ [])
    (hasserts : ∀ a ∈ actions, a.asserts = false)
    (hselector : ∀ a ∈ actions, ¬ Placeholder.selector.mark <:+: a.selector)
    (hvalue : ∀ a ∈ actions, a.interaction.kind = .input →
      ¬ Placeholder.value.mark <:+: a.selector) :
    generate (some {}) actions = Text.indent (generate none actions) := by
  have hsteps : actions.map (fun a => Text.indent (step ({} : UserSettings).resolve a)) =
      (actions.map plainStep).map Text.indent := by
    rw [List.map_map]
    refine List.map_congr_left fun a ha => ?_
    rw [step_unset (hasserts a ha) ⟨hselector a ha, hvalue a ha⟩, Function.comp_apply]
  have hends : ∀ t ∈ actions.map plainStep, t.EndsInLine :=
    List.forall_mem_map.mpr fun a _ => endsInLine_plainStep a
  have hconfigured : generate (some {}) actions = Text.stack (actions.map
      fun a => Text.indent (step ({} : UserSettings).resolve a)) := by
    obtain ⟨a, rest, rfl⟩ := List.exists_cons_of_ne_nil hne
    show Text.stack ([] ++ _ ++ []) = _
    rw [List.nil_append, List.append_nil]
  calc generate (some {}) actions
      = Text.stack ((actions.map plainStep).map Text.indent) := by rw [hconfigured, hsteps]
    _ = Text.indent (Text.stack (actions.map plainStep)) := (Text.indent_stack hends).symm
    _ = Text.indent (generate none actions) := congrArg Text.indent (literal_eq hne hasserts).symm

/-- Selectors with quotes, line ends and marks filled earlier, and a value over three lines that holds
every mark. -/
theorem generate_unset_marked_value :
    let actions : List Action :=
      [Action.click "a[b=\"\\\x7bvalue\x7d\"]\r\n",
        Action.input "#q\x7blocator\x7d" "\x7blocator\x7d\r\n\x7bselector\x7d\n\x7bvalue\x7d"]
    (∀ a ∈ actions, a.asserts = false) ∧
      (∀ a ∈ actions, ¬ Placeholder.selector.mark <:+: a.selector) ∧
      (∀ a ∈ actions, a.interaction.kind = .input → ¬ Placeholder.value.mark <:+: a.selector) ∧
      generate (some {}) actions = Text.indent (generate none actions) := by
  intro actions
  have hasserts : ∀ a ∈ actions, a.asserts = false := by decide
  have hselector : ∀ a ∈ actions, ¬ Placeholder.selector.mark <:+: a.selector := by decide
  have hvalue : ∀ a ∈ actions, a.interaction.kind = .input →
      ¬ Placeholder.value.mark <:+: a.selector := by decide
  exact ⟨hasserts, hselector, hvalue,
    generate_unset (List.cons_ne_nil _ _) hasserts hselector hvalue⟩

end Cuesheet.Script
