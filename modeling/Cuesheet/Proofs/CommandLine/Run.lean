import Cuesheet.CommandLine.Run
import Cuesheet.Proofs.CommandLine.Command
import Cuesheet.Proofs.FileTree

/-!
What a run does to the files and to standard output.

A script that is sent to a destination is saved at one place, in directories that may have been made
for it (`Delivered`), and a run that fails on the way has made such directories at most
(`deliver_cases`). The command that writes a script does nothing before all is loaded but tell messages
(`Told`), so either the whole of it happens or, when something cannot be loaded, nothing
(`generate_all_or_nothing`).
-/

namespace Cuesheet.CommandLine

open FileTree (Grown Saved)

/-! ### Sending a script -/

/-- A tree after a script was sent to a destination, and the place where the script is. -/
structure Delivered (before after : FileTree) (destination script : Text) (place : Place) :
    Prop where
  saved : Saved before after place script
  /-- In a directory the script has its usual name; else it is the destination itself. -/
  path :
    (∃ directory, before.locate (.ofText destination) = .ok directory ∧
        before.entry? directory = some .directory ∧ place = directory ++ [Script.defaultName] ∧
        after.read (.ofText (Path.join destination Script.defaultName)) = .ok script) ∨
      before.isDirectory (.ofText destination) = false ∧
        after.locate (.ofText destination) = .ok place ∧
        after.read (.ofText destination) = .ok script

theorem isName_defaultName : Path.IsName Script.defaultName where
  ne_nil := by decide
  slash_not_mem := by decide
  ne_here := by decide
  ne_back := by decide

/-- A script that was written to where it goes was delivered, directories made before included. -/
theorem delivered_of_saved {t t₁ t₂ : FileTree} {destination script : Text} {place : Place}
    (hd : destination ≠ []) (hgrown : Grown t t₁)
    (hp : t₁.locate (.ofText (scriptPath t destination)) = .ok place)
    (hasks : (Path.ofText (scriptPath t destination)).asksDirectory = false)
    (hsaved : Saved t₁ t₂ place script) : Delivered t t₂ destination script place := by
  have hlocate := hsaved.locate hp
  have hread := hsaved.read hlocate hasks
  refine ⟨hgrown.saved hsaved, ?_⟩
  cases hdir : t.isDirectory (.ofText destination) with
  | false =>
    rw [scriptPath, hdir] at hlocate hread
    exact .inr ⟨rfl, hlocate, hread⟩
  | true =>
    obtain ⟨directory, hat, hentry⟩ := FileTree.isDirectory_eq_true_iff.mp hdir
    rw [scriptPath, hdir] at hp hread
    have hjoin := hgrown.locate (FileTree.locate_join hd isName_defaultName hat hentry)
    have hplace : place = directory ++ [Script.defaultName] := Except.ok.inj (hp.symm.trans hjoin)
    exact .inl ⟨directory, hat, hentry, hplace, hread⟩

/-- What comes after the directories around the file are made delivers the script, or fails and changes
nothing more. -/
theorem write_script_cases {t t₁ : FileTree} {destination : Text} (hd : destination ≠ [])
    (script : Text) (hgrown : Grown t t₁) :
    (∃ e t', (do
        FileTree.write (.ofText (scriptPath t destination)) script
        return scriptPath t destination : FileTree.Change Text).run.run t₁ = (.error e, t') ∧
        Grown t t') ∨
      ∃ path t' place, (do
        FileTree.write (.ofText (scriptPath t destination)) script
        return scriptPath t destination : FileTree.Change Text).run.run t₁ = (.ok path, t') ∧
        Delivered t t' destination script place := by
  rw [run_bind]
  rcases FileTree.write_cases (.ofText (scriptPath t destination)) script t₁ with
    ⟨e, hrun⟩ | ⟨t₂, place, hrun, hp, hasks, hsaved⟩
  · rw [hrun]
    exact .inl ⟨e, t₁, rfl, hgrown⟩
  · rw [hrun]
    exact .inr ⟨_, t₂, place, rfl, delivered_of_saved hd hgrown hp hasks hsaved⟩

/-- Sending a script delivers it, or fails with some directories made at most. -/
theorem deliver_cases {destination : Text} (hd : destination ≠ []) (script : Text) (t : FileTree) :
    (∃ e t', (deliver destination script).run.run t = (.error e, t') ∧ Grown t t') ∨
      ∃ path t' place, (deliver destination script).run.run t = (.ok path, t') ∧
        Delivered t t' destination script place := by
  rw [deliver, run_get_bind]
  dsimp only
  cases hparent : (Path.ofText (scriptPath t destination)).parent? with
  | none => exact write_script_cases hd script (Grown.refl t)
  | some parent =>
    have hgrown := FileTree.moves_makeDirectories parent t
    rw [run_bind]
    cases hrun : (FileTree.makeDirectories parent).run.run t with
    | mk outcome t₁ =>
      rw [hrun] at hgrown
      cases outcome with
      | error e => exact .inl ⟨e, t₁, rfl, hgrown⟩
      | ok u => exact write_script_cases hd script hgrown

theorem run_change {α : Type} (c : FileTree.Change α) (w : World) :
    (Run.change c).run.run w = match c.run.run w.files with
      | (.ok a, files) => (.ok a, { w with files })
      | (.error e, files) => (.error (.file e), { w with files }) := by
  rw [Run.change, run_get_bind]
  rcases c.run.run w.files with ⟨_ | a, files⟩ <;> rfl

/-! ### Messages -/

/-- Nothing happened but that messages were told. -/
structure Told (before after : World) : Prop where
  files : after.files = before.files
  output : after.output = before.output

theorem Told.trans {w w' w'' : World} (h : Told w w') (h' : Told w' w'') : Told w w'' :=
  ⟨h'.files.trans h.files, h'.output.trans h.output⟩

/-- A message on a condition, in front of the rest of a run. -/
theorem run_tell_if {α : Type} (p : Prop) [Decidable p] (style : ReportStyle) (tone : Tone)
    (message : Text) (rest : Unit → Run α) (w : World) :
    ∃ w', Told w w' ∧
      (if p then Run.tell style tone message >>= rest else rest ()).run.run w =
        (rest ()).run.run w' := by
  by_cases hp : p
  · rw [if_pos hp]
    exact ⟨{ w with messages := w.messages ++ style.line tone message }, ⟨rfl, rfl⟩, rfl⟩
  · rw [if_neg hp]
    exact ⟨w, ⟨rfl, rfl⟩, rfl⟩

/-! ### Writing a script -/

namespace GenerateCommand

variable (c : GenerateCommand) (i : Invocation) (toTerminal : Bool)
variable {w : World} {recording : Recording} {review : Review} {e : Failure}

/-- The last part of the command: what becomes of the script. -/
def emit (style : ReportStyle) (count script : Text) : Run Unit :=
  if c.prints then Run.print script
  else do
    let path ← Run.change (deliver c.destination script)
    Run.tell style .success ("Wrote " ++ count ++ " action(s) to " ++ path)

theorem review?_of_error {files : FileTree} (h : loadReview files c.review = .error e) :
    c.review? files = .error e := by
  rw [review?, h]
  rfl

theorem review?_of_ok {files : FileTree} (h : loadReview files c.review = .ok review) :
    c.review? files = .ok { review with selection := c.selection.or review.selection } := by
  rw [review?, h]
  cases hs : c.selection <;> rfl

theorem run_of_recording_error (h : loadRecording w.files c.recording = .error e) :
    (c.run i toTerminal).run.run w = (.error e, w) := by
  rw [run, run_get_bind, run_lift_bind, h]

theorem run_of_review_error (h : loadRecording w.files c.recording = .ok recording)
    (h' : c.review? w.files = .error e) : (c.run i toTerminal).run.run w = (.error e, w) := by
  rw [run, run_get_bind, run_lift_bind, h]
  dsimp only
  rw [run_lift_bind, h']

/-- With the recording and the review loaded, messages are told at most before the settings are
loaded, and before the script is made of what is loaded. -/
theorem run_of_loaded (h : loadRecording w.files c.recording = .ok recording)
    (h' : c.review? w.files = .ok review) :
    ∃ w', Told w w' ∧ (c.run i toTerminal).run.run w =
      match loadSettings? w.files c.settings with
      | .error e => (.error e, w')
      | .ok settings =>
        (c.emit (i.reportStyle toTerminal) (Text.ofNat (review.apply recording.actions).length)
          (Script.generate settings (review.apply recording.actions))).run.run w' := by
  rw [run, run_get_bind, run_lift_bind, h]
  dsimp only
  rw [run_lift_bind, h']
  dsimp only
  obtain ⟨w₁, hw₁, hrun₁⟩ := run_tell_if (review.placesBeyond recording.actions.length ≠ [])
    (i.reportStyle toTerminal) .warning _ _ w
  rw [hrun₁]
  obtain ⟨w₂, hw₂, hrun₂⟩ := run_tell_if (i.verbosity.isVerbose = true)
    (i.reportStyle toTerminal) .info _ _ w₁
  rw [hrun₂, run_lift_bind]
  cases hs : loadSettings? w.files c.settings with
  | error e => exact ⟨w₂, hw₁.trans hw₂, rfl⟩
  | ok settings =>
    obtain ⟨w₃, hw₃, hrun₃⟩ := run_tell_if (settings.isNone = true)
      (i.reportStyle toTerminal) .info _ _ w₂
    exact ⟨w₃, (hw₁.trans hw₂).trans hw₃, hrun₃⟩

/-- A script that is printed comes with a line feed and changes nothing else. -/
theorem emit_of_prints (h : c.prints = true) (style : ReportStyle) (count script : Text) (w : World) :
    (c.emit style count script).run.run w =
      (.ok (), { w with output := w.output ++ script ++ ['\n'] }) := by
  rw [emit, if_pos h]
  rfl

/-- A script that is not printed is delivered, or some directories were made at most. -/
theorem emit_cases (h : c.prints = false) (hd : c.destination ≠ []) (style : ReportStyle)
    (count script : Text) (w : World) :
    (∃ f w', (c.emit style count script).run.run w = (.error (.file f), w') ∧
        w'.output = w.output ∧ Grown w.files w'.files) ∨
      ∃ w' place, (c.emit style count script).run.run w = (.ok (), w') ∧ w'.output = w.output ∧
        Delivered w.files w'.files c.destination script place := by
  rw [emit, if_neg (by simp [h]), run_bind, run_change]
  rcases deliver_cases hd script w.files with
    ⟨f, files, hrun, hgrown⟩ | ⟨path, files, place, hrun, hplace⟩
  · rw [hrun]
    exact .inl ⟨f, { w with files }, rfl, rfl, hgrown⟩
  · rw [hrun]
    exact .inr ⟨_, place, rfl, rfl, hplace⟩

theorem destination_ne_nil {arguments : List Text} {i : Invocation} {c : GenerateCommand}
    (hi : Invocation.ofArguments arguments = .ok i) (hc : i.command = .generate c) :
    c.destination ≠ [] := by
  have houtput := output_ne_nil hi hc
  rw [destination]
  cases h : c.output with
  | none => exact isName_defaultName.ne_nil
  | some path => exact fun hnil => houtput (h.trans (congrArg some hnil))

end GenerateCommand

/-- A run failed and did nothing but tell messages. -/
structure Refused (files : FileTree) (e : Failure) (outcome : Except Failure Unit)
    (world : World) : Prop where
  outcome : outcome = .error e
  output : world.output = []
  files : world.files = files

/-- **A script is written as a whole or not at all.** A run fails with the error of the first of its
documents that cannot be loaded, and then changes and prints nothing. With all loaded, the script of the
reviewed actions is printed, and no file changed, or it is saved in one file, and nothing printed. -/
theorem generate_all_or_nothing {arguments : List Text} {i : Invocation} {c : GenerateCommand}
    (hi : Invocation.ofArguments arguments = .ok i) (hc : i.command = .generate c)
    {toTerminal : Bool} {files : FileTree} {outcome : Except Failure Unit} {world : World}
    (hrun : i.outcome toTerminal files = (outcome, world)) :
    (∀ e, loadRecording files c.recording = .error e → Refused files e outcome world) ∧
    (∀ recording e, loadRecording files c.recording = .ok recording →
      loadReview files c.review = .error e → Refused files e outcome world) ∧
    (∀ recording review e, loadRecording files c.recording = .ok recording →
      loadReview files c.review = .ok review → loadSettings? files c.settings = .error e →
      Refused files e outcome world) ∧
    (∀ recording review settings, loadRecording files c.recording = .ok recording →
      loadReview files c.review = .ok review → loadSettings? files c.settings = .ok settings →
      ∀ script, script = Script.generate settings
        ({ review with selection := c.selection.or review.selection }.apply recording.actions) →
      (c.prints = true → outcome = .ok () ∧ world.output = script ++ ['\n'] ∧ world.files = files) ∧
      (c.prints = false → world.output = [] ∧
        (outcome = .ok () →
          ∃ place, Delivered files world.files (c.output.getD Script.defaultName) script place) ∧
        (∀ e, outcome = .error e → (∃ f, e = .file f) ∧ Grown files world.files))) := by
  have hgenerate : (c.run i toTerminal).run.run { files } = (outcome, world) := by
    rw [← hrun, Invocation.outcome, Invocation.run, hc]
  refine ⟨?_, ?_, ?_, ?_⟩
  · intro e h
    rw [c.run_of_recording_error i toTerminal h] at hgenerate
    cases hgenerate
    exact ⟨rfl, rfl, rfl⟩
  · intro recording e h h'
    rw [c.run_of_review_error i toTerminal h (c.review?_of_error h')] at hgenerate
    cases hgenerate
    exact ⟨rfl, rfl, rfl⟩
  · intro recording review e h h' h''
    obtain ⟨w, hw, hloaded⟩ := c.run_of_loaded i toTerminal (w := { files }) h (c.review?_of_ok h')
    rw [h''] at hloaded
    cases hloaded.symm.trans hgenerate
    exact ⟨rfl, hw.output, hw.files⟩
  · rintro recording review settings h h' h'' script rfl
    obtain ⟨w, hw, hloaded⟩ := c.run_of_loaded i toTerminal (w := { files }) h (c.review?_of_ok h')
    rw [h''] at hloaded
    have hemit := hloaded.symm.trans hgenerate
    refine ⟨fun hprints => ?_, fun hprints => ?_⟩
    · cases (c.emit_of_prints hprints _ _ _ w).symm.trans hemit
      exact ⟨rfl, by rw [hw.output]; rfl, hw.files⟩
    · rcases c.emit_cases hprints (GenerateCommand.destination_ne_nil hi hc) _ _ _ w with
        ⟨f, w', hfailed, houtput, hgrown⟩ | ⟨w', place, hdone, houtput, hplace⟩
      · cases hfailed.symm.trans hemit
        rw [hw.files] at hgrown
        exact ⟨houtput.trans hw.output, nofun, fun e he => ⟨⟨f, (Except.error.inj he).symm⟩, hgrown⟩⟩
      · cases hdone.symm.trans hemit
        rw [hw.files] at hplace
        exact ⟨houtput.trans hw.output, fun _ => ⟨place, hplace⟩, nofun⟩

/-- Of two clicks the command line keeps the second, against the review, which renames it; the script
goes to a directory. -/
theorem generate_all_or_nothing_directory :
    let arguments := ["generate", "--actions", "a.json", "--review", "r.json", "--select", "1",
      "-o", "out"].map String.toList
    let recording : Recording := { actions := [Action.click "#a".toList, Action.click "#b".toList] }
    let review : Review := { selection := some [0], selectors := .ofList [(1, "#c".toList)] }
    let files : FileTree := {
      entries := .ofList [
        (["a.json".toList], .file (some (Document.ofRecording recording).spread)),
        (["r.json".toList], .file (some (Document.ofReview review).spread)),
        (["out".toList], .directory)] }
    let c : GenerateCommand := {
      recording := "a.json".toList
      review := some "r.json".toList
      selection := some [1]
      output := some "out".toList }
    let i : Invocation := { verbosity := .normal, color := .auto, command := .generate c }
    let script := Script.generate none [Action.click "#c".toList]
    Invocation.ofArguments arguments = .ok i ∧ (i.outcome false files).1 = .ok () ∧
      (i.outcome false files).2.output = [] ∧
      ∃ place, Delivered files (i.outcome false files).2.files "out".toList script place := by
  intro arguments recording review files c i script
  have hi : Invocation.ofArguments arguments = .ok i := eq_ok_of_toOption (by decide +kernel)
  have hrecording : loadRecording files c.recording = .ok recording :=
    eq_ok_of_toOption (by decide +kernel)
  have hreview : loadReview files c.review = .ok review := eq_ok_of_toOption (by decide +kernel)
  have hdone : (i.outcome false files).1 = .ok () := eq_ok_of_toOption (by decide +kernel)
  obtain ⟨-, -, -, hloaded⟩ := generate_all_or_nothing hi rfl (Prod.eta (i.outcome false files)).symm
  obtain ⟨-, hsaved⟩ := hloaded _ _ none hrecording hreview rfl script
    (congrArg (Script.generate none) (by decide +kernel))
  obtain ⟨houtput, hplace, -⟩ := hsaved rfl
  exact ⟨hi, hdone, houtput, hplace hdone⟩

end Cuesheet.CommandLine
