import Cuesheet.CommandLine.Command
import Cuesheet.Proofs.CommandLine.Option

/-!
What an accepted command line is.

A command line is accepted by the grammar of the command it names (`readProgram_command`), so what the
options of a grammar keep holds of every command that comes out of it. A script is thus never sent to a
path without characters (`output_ne_nil`).
-/

namespace Cuesheet.CommandLine

variable {σ : Type} {P : σ → Prop}

/-! ### Options -/

theorem single_respects {α : Type} {long : Text} {short : Option Char} {given : σ → Option α}
    {value : Text → Except Usage α} {put : σ → α → σ}
    (hput : ∀ s t a, value t = .ok a → P s → P (put s a)) :
    (single long short given value put).Respects P := by
  intro s t s' hs h
  rw [single] at h
  dsimp only at h
  split at h
  · cases h
  · obtain ⟨a, ha, h⟩ := bind_eq_ok_iff.mp h
    cases h
    exact hput s t a ha hs

theorem flag_respects {long : Text} {short : Option Char} {given : σ → Bool} {put : σ → σ}
    (hput : ∀ s, P s → P (put s)) : (flag long short given put).Respects P := by
  intro s t s' hs h
  rw [flag] at h
  dsimp only at h
  split at h
  · cases h
  · cases h
    exact hput s hs

theorem Globals.options_respect {name : Text} {globals : σ → Globals} {put : σ → Globals → σ}
    (hput : ∀ s g, P s → P (put s g)) : ∀ o ∈ Globals.options name globals put, o.Respects P := by
  intro o ho
  rcases List.mem_append.mp ho with ho | ho
  · simp only [List.mem_cons, List.not_mem_nil, or_false] at ho
    rcases ho with rfl | rfl | rfl
    · intro s t s' hs h
      cases h
      exact hput s _ hs
    · exact flag_respects fun s hs => hput s _ hs
    · exact single_respects fun s t a _ hs => hput s _ hs
  · simp only [inquiries, List.mem_cons, List.not_mem_nil, or_false] at ho
    rcases ho with rfl | rfl <;> exact fun _ _ _ _ h => nomatch h

theorem commandGrammar_respects {name : Text} {own : List (Opt (Partial σ))}
    (hown : ∀ o ∈ own, o.Respects (P ·.command)) :
    (commandGrammar name own none).Respects (P ·.command) where
  options o ho := by
    rcases List.mem_append.mp ho with ho | ho
    · exact hown o ho
    · refine Globals.options_respect (P := (P ·.command)) ?_ o ho
      exact fun _ _ h => h
  words := nofun

theorem pathValue_ne_nil {t path : Text} (h : pathValue t = .ok path) : path ≠ [] := by
  rw [pathValue] at h
  split at h
  · cases h
  · cases h
    assumption

/-! ### Commands -/

theorem readCommand_eq_ok {g : Grammar (Partial σ)} {start : σ} {finish : σ → Except Usage Command}
    {arguments : List Text} {globals : Globals} {command : Command}
    (h : readCommand g start finish arguments = .ok (globals, command)) :
    ∃ s, g.read { command := start } arguments = .ok s ∧ finish s.command = .ok command := by
  obtain ⟨s, hs, h⟩ := bind_eq_ok_iff.mp h
  obtain ⟨c, hc, h⟩ := bind_eq_ok_iff.mp h
  cases h
  exact ⟨s, hs, hc⟩

theorem GenerateDraft.output_eq_of_finish {d : GenerateDraft} {c : GenerateCommand}
    (h : d.finish = .ok (.generate c)) : c.output = d.output := by
  rw [finish] at h
  split at h
  · cases h
  · split at h
    · cases h
    · cases h
      rfl

/-- A command line is accepted by the reader of one of the commands. -/
theorem readProgram_command {s : Intake Globals} {arguments : List Text} {i : Invocation}
    (h : readProgram s arguments = .ok i) :
    ∃ c ∈ commands, ∃ rest globals, c.2 rest = .ok (globals, i.command) := by
  induction arguments generalizing s with
  | nil =>
    obtain ⟨front, -, h⟩ := bind_eq_ok_iff.mp h
    cases h
  | cons t arguments ih =>
    rw [readProgram] at h
    split at h
    · obtain ⟨s', -, h⟩ := bind_eq_ok_iff.mp h
      exact ih h
    · split at h
      · cases h
      · rename_i name read hfind
        obtain ⟨⟨behind, command⟩, hread, h⟩ := bind_eq_ok_iff.mp h
        obtain ⟨front, -, h⟩ := bind_eq_ok_iff.mp h
        cases h
        exact ⟨_, List.mem_of_find?_eq_some hfind, arguments, behind, hread⟩

theorem generateGrammar_respects : generateGrammar.Respects (·.command.output ≠ some []) := by
  refine commandGrammar_respects (P := (GenerateDraft.output · ≠ some [])) fun o ho => ?_
  simp only [List.mem_cons, List.not_mem_nil, or_false] at ho
  rcases ho with rfl | rfl | rfl | rfl | rfl | rfl
  · exact single_respects fun _ _ _ _ h => h
  · exact single_respects fun _ _ _ _ h => h
  · exact single_respects fun _ _ _ _ h => h
  · intro s t s' hs h
    obtain ⟨places, -, h⟩ := bind_eq_ok_iff.mp h
    cases h
    exact hs
  · exact single_respects fun _ _ _ hpath _ h => pathValue_ne_nil hpath (Option.some.inj h)
  · exact flag_respects fun _ h => h

/-- A script is never sent to a path without characters. -/
theorem output_ne_nil {arguments : List Text} {i : Invocation} {c : GenerateCommand}
    (hi : Invocation.ofArguments arguments = .ok i) (hc : i.command = .generate c) :
    c.output ≠ some [] := by
  obtain ⟨reader, hreader, rest, globals, hrest⟩ := readProgram_command hi
  rw [hc] at hrest
  simp only [commands, List.mem_cons, List.not_mem_nil, or_false] at hreader
  rcases hreader with rfl | rfl | rfl
  · obtain ⟨s, hs, hfinish⟩ := readCommand_eq_ok hrest
    have houtput : s.command.output ≠ some [] := generateGrammar_respects.read (by simp) hs
    exact (GenerateDraft.output_eq_of_finish hfinish).symm ▸ houtput
  · obtain ⟨s, -, hfinish⟩ := readCommand_eq_ok hrest
    rw [CompileDraft.finish] at hfinish
    split at hfinish <;> cases hfinish
  · change readCommand templatesGrammar {} (fun c => .ok (.templates c)) rest = _ at hrest
    obtain ⟨s, -, hfinish⟩ := readCommand_eq_ok hrest
    cases hfinish

end Cuesheet.CommandLine
