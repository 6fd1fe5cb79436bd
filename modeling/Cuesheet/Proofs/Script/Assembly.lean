import Mathlib.Data.List.DropRight
import Cuesheet.Script
import Cuesheet.Proofs.Text.Line

/-!
How a script is put together.

Every action adds lines of its own (`stepLines`): those of its code moved right, or one empty line
where it has no code. A script is the stack of the lines of its frame and of its actions, whatever
breaks there are in templates, values and injected code (`configured_eq_stack`). So cutting it at its
line feeds gives the same lines again (`splitOn_configured`), and the body of a script, between the
lines of the frame, grows action by action.
-/

namespace Cuesheet.Script

/-- The lines that an action adds to a script. -/
def stepLines (s : Settings) (a : Action) : List Text :=
  if step s a = [] then [[]] else (Text.lines (step s a)).map ("  " ++ ·)

/-- The lines of a framework's script between the lines of the frame. -/
def body (f : Framework) (script : Text) : List Text :=
  ((script.splitOn '\n').drop f.target.header.length).rdrop f.target.footer.length

variable {s : Settings}

theorem stepLines_ne_nil (s : Settings) (a : Action) : stepLines s a ≠ [] := by
  rw [stepLines]
  split
  next => exact List.cons_ne_nil _ _
  next h => simpa using Text.lines_ne_nil h

/-- Code that is moved right is the stack of the lines it adds. -/
theorem indent_step (s : Settings) (a : Action) :
    Text.indent (step s a) = Text.stack (stepLines s a) := by
  rw [stepLines]
  split
  next h =>
    rw [h]
    rfl
  next => rfl

theorem unbroken_of_mem_stepLines {a : Action} {l : Text} (h : l ∈ stepLines s a) :
    Text.Unbroken l := by
  rw [stepLines] at h
  split at h
  next => exact List.mem_singleton.mp h ▸ List.not_mem_nil
  next =>
    obtain ⟨line, hline, rfl⟩ := List.mem_map.mp h
    exact .append (by decide) (Text.unbroken_of_mem_lines hline)

/-- The frame of a script is made of whole lines. -/
theorem unbroken_frame (f : Framework) :
    (∀ l ∈ f.target.header, Text.Unbroken l) ∧ ∀ l ∈ f.target.footer, Text.Unbroken l := by
  cases f <;> exact ⟨by decide, by decide⟩

/-- **A script is one stack of lines**: those of its frame and those of its actions in order. -/
theorem configured_eq_stack {actions : List Action} (h : actions ≠ []) :
    configured s actions = Text.stack
      (s.framework.target.header ++ actions.flatMap (stepLines s) ++ s.framework.target.footer) := by
  have hsingle : ∀ ls : List Text, (ls.map ([·])).map Text.stack = ls := fun ls => by
    rw [List.map_map]
    exact List.map_id ls
  have hflat : ∀ ls : List Text, (ls.map ([·])).flatten = ls := fun ls => by
    rw [← List.flatMap_def, List.flatMap_singleton']
  have hsteps : actions.map (fun a => Text.indent (step s a)) =
      (actions.map (stepLines s)).map Text.stack := by
    rw [List.map_map]
    exact List.map_congr_left fun a _ => indent_step s a
  have hpieces : ∀ ts ∈ s.framework.target.header.map ([·]) ++ actions.map (stepLines s) ++
      s.framework.target.footer.map ([·]), ts ≠ [] := by
    simp only [List.forall_mem_append, List.forall_mem_map]
    exact ⟨⟨fun _ _ => List.cons_ne_nil _ _, fun a _ => stepLines_ne_nil s a⟩,
      fun _ _ => List.cons_ne_nil _ _⟩
  obtain ⟨a, rest, rfl⟩ := List.exists_cons_of_ne_nil h
  have hstack := Text.stack_flatten hpieces
  rw [List.map_append, List.map_append, hsingle, hsingle, ← hsteps, List.flatten_append,
    List.flatten_append, hflat, hflat, ← List.flatMap_def] at hstack
  exact hstack

/-- Cut at its line feeds, a script is those lines again. -/
theorem splitOn_configured {actions : List Action} (h : actions ≠ []) :
    (configured s actions).splitOn '\n' =
      s.framework.target.header ++ actions.flatMap (stepLines s) ++ s.framework.target.footer := by
  obtain ⟨hheader, hfooter⟩ := unbroken_frame s.framework
  rw [configured_eq_stack h]
  refine Text.splitOn_stack ?_ ?_
  · obtain ⟨a, rest, rfl⟩ := List.exists_cons_of_ne_nil h
    have hfirst : (a :: rest).flatMap (stepLines s) ≠ [] := by
      rw [List.flatMap_cons]
      exact List.append_ne_nil_of_left_ne_nil (stepLines_ne_nil s a) _
    exact List.append_ne_nil_of_left_ne_nil (List.append_ne_nil_of_right_ne_nil _ hfirst) _
  · simp only [List.forall_mem_append]
    refine ⟨⟨hheader, fun l hl => ?_⟩, hfooter⟩
    obtain ⟨a, -, hl⟩ := List.mem_flatMap.mp hl
    exact unbroken_of_mem_stepLines hl

/-- Between the lines of the frame stand those of the actions. -/
theorem body_configured {actions : List Action} (h : actions ≠ []) :
    body s.framework (configured s actions) = actions.flatMap (stepLines s) := by
  rw [body, splitOn_configured h, List.append_assoc, List.drop_left, List.rdrop_append_length]

/-- **Scripts are put together action by action.** Cut at its line feeds, a script is the lines of the
frame around the lines of each action in order, and the body of two lists of actions is the one body
after the other. -/
theorem generate_by_action (user : UserSettings) :
    (∀ actions : List Action, actions ≠ [] →
      (generate (some user) actions).splitOn '\n' =
        user.resolve.framework.target.header ++ actions.flatMap (stepLines user.resolve) ++
          user.resolve.framework.target.footer) ∧
    ∀ xs ys : List Action, xs ≠ [] → ys ≠ [] →
      body user.resolve.framework (generate (some user) (xs ++ ys)) =
        body user.resolve.framework (generate (some user) xs) ++
          body user.resolve.framework (generate (some user) ys) := by
  refine ⟨fun actions h => splitOn_configured h, fun xs ys hxs hys => ?_⟩
  have hboth : xs ++ ys ≠ [] := List.append_ne_nil_of_left_ne_nil hxs ys
  show body _ (configured _ (xs ++ ys)) = body _ (configured _ xs) ++ body _ (configured _ ys)
  rw [body_configured hboth, body_configured hxs, body_configured hys, List.flatMap_append]

/-- A value that breaks twice, and one that leaves its template empty. -/
theorem generate_by_action_broken_and_empty :
    let user : UserSettings :=
      { framework := some "selenium", templates := { input := some "\x7bvalue\x7d" } }
    let xs : List Action := [.input "#a" "x\r\n\ny", .input "#b" ""]
    let ys : List Action := [.click "#c"]
    xs ≠ [] ∧ ys ≠ [] ∧
      (generate (some user) xs).splitOn '\n' =
        user.resolve.framework.target.header ++ (["  x", "  ", "  y", ""] : List Text) ++
          user.resolve.framework.target.footer ∧
      body user.resolve.framework (generate (some user) (xs ++ ys)) =
        body user.resolve.framework (generate (some user) xs) ++
          body user.resolve.framework (generate (some user) ys) := by
  intro user xs ys
  have hxs : xs ≠ [] := List.cons_ne_nil _ _
  have hys : ys ≠ [] := List.cons_ne_nil _ _
  have hlines : xs.flatMap (stepLines user.resolve) = (["  x", "  ", "  y", ""] : List Text) := by
    decide +kernel
  obtain ⟨hcut, hbody⟩ := generate_by_action user
  exact ⟨hxs, hys, hlines ▸ hcut xs hxs, hbody xs ys hxs hys⟩

end Cuesheet.Script
