import Cuesheet.Proofs.Script.Assembly
import Cuesheet.Proofs.Script.LineEnd

/-!
The echo of an instruction without code.

Such an instruction is put on one line behind two slashes, below the line of its template. That takes
out the ends that part the lines of a text, but a reader of the script ends a comment at others as
well: a carriage return that no line feed follows, and the two separators of Unicode. The echo is a
whole line of the script exactly if the instruction holds none of them (`echo_iff`).
-/

namespace Cuesheet.Script

/-- Wherever a line of a script ends in the text, a line of the text ends too: at a line feed, or at a
carriage return right before one. -/
def PlainEnds : Text → Prop
  | [] => True
  | c :: t => (c ∈ lineEnds → c = '\n' ∨ c = '\r' ∧ t.head? = some '\n') ∧ PlainEnds t

instance decidablePlainEnds : ∀ t : Text, Decidable (PlainEnds t)
  | [] => inferInstanceAs (Decidable True)
  | _ :: t => @instDecidableAnd _ _ _ (decidablePlainEnds t)

section

variable {l t : Text}

theorem plainEnds_iff_of_unbroken (h : Text.Unbroken l) : PlainEnds l ↔ Inline l := by
  induction l with
  | nil => exact ⟨fun _ => List.forall_mem_nil _, fun _ => trivial⟩
  | cons c l ih =>
    have hc : c ≠ '\n' := fun he => h (he ▸ List.mem_cons_self ..)
    have hrest : Text.Unbroken l := fun hl => h (List.mem_cons_of_mem c hl)
    have hhead : l.head? ≠ some '\n' := fun hl => hrest (List.mem_of_head? hl)
    rw [PlainEnds, ih hrest, Inline, Inline, List.forall_mem_cons]
    refine and_congr_left fun _ => ⟨fun hend hmem => ?_, fun hend hmem => absurd hmem hend⟩
    exact (hend hmem).elim hc fun hreturn => hhead hreturn.2

theorem plainEnds_append_break (h : Text.Unbroken l) :
    PlainEnds (l ++ '\n' :: t) ↔ Inline (Text.chomp l) ∧ PlainEnds t := by
  induction l with
  | nil => simp [PlainEnds, Text.chomp, Inline]
  | cons c l ih =>
    have hc : c ≠ '\n' := fun he => h (he ▸ List.mem_cons_self ..)
    have hrest : Text.Unbroken l := fun hl => h (List.mem_cons_of_mem c hl)
    rw [List.cons_append, PlainEnds, ih hrest, Text.chomp]
    split
    next hreturn =>
      obtain ⟨rfl, rfl⟩ := hreturn
      simp [Text.chomp]
    next hkeep =>
      have hend : (c ∈ lineEnds → c = '\n' ∨ c = '\r' ∧ (l ++ '\n' :: t).head? = some '\n') ↔
          c ∉ lineEnds := by
        refine ⟨fun hend hmem => ?_, fun hend hmem => absurd hmem hend⟩
        obtain ⟨rfl, hhead⟩ := (hend hmem).resolve_left hc
        cases l with
        | nil => exact hkeep ⟨rfl, rfl⟩
        | cons d l => exact hrest (Option.some.inj hhead ▸ List.mem_cons_self ..)
      rw [hend, ← and_assoc, Inline, Inline, List.forall_mem_cons]

/-- The lines of a text are lines of a script exactly if it ends them plainly. -/
theorem forall_inline_lines_iff (t : Text) : (∀ l ∈ Text.lines t, Inline l) ↔ PlainEnds t := by
  induction t using Text.line_induction with
  | nil => exact ⟨fun _ => trivial, fun _ => List.forall_mem_nil _⟩
  | last t hne ht =>
    rw [Text.lines_of_unbroken ht hne, List.forall_mem_singleton, plainEnds_iff_of_unbroken ht]
  | more l t hl ih =>
    rw [Text.lines_append_break hl, List.forall_mem_cons, ih, plainEnds_append_break hl]

theorem inline_oneLine_iff (t : Text) : Inline (oneLine t) ↔ PlainEnds t := by
  rw [oneLine, inline_join_iff (by decide), forall_inline_lines_iff]

end

variable {s : Settings} {a : Action}

/-- The last line of an action's code is one of the lines it adds, moved right. -/
theorem mem_stepLines {above l : Text} (hl : Text.Unbroken l) (hne : l ≠ [])
    (hstep : step s a = above ++ '\n' :: l) : "  " ++ l ∈ stepLines s a := by
  rw [stepLines, if_neg (by simp [hstep]), hstep]
  refine List.mem_map_of_mem (List.mem_of_getLast? ?_)
  exact Text.getLast?_lines_append_break hl hne above

/-- **An instruction without code is echoed below the line of its template**, and the echo is a whole
line of the script exactly if the instruction ends its lines plainly. -/
theorem echo_iff {request : RequestedAssertion} {i : Text} (hrequest : a.assertion? = some request)
    (hi : request.instruction = some i) :
    let locator := Locator.resolve s.framework s.locators a.selector
    let echo := echoLead ++ oneLine i
    Instruction.compile Instruction.defaultCeiling s.framework ⟨a.selector, locator⟩ i = none →
      step s a = Template.render (s.templates.forAssertion request.kind) locator a.selector a.value? ++
          '\n' :: echo ∧
        (Inline (oneLine i) ↔ PlainEnds i) ∧
        ∀ actions : List Action, a ∈ actions →
          ("  " ++ echo ∈ sourceLines (configured s actions) ↔ PlainEnds i) := by
  intro locator echo hnone
  have hstep : step s a =
      Template.render (s.templates.forAssertion request.kind) locator a.selector a.value? ++
        '\n' :: echo := by
    simp only [step, hrequest, hi]
    rw [hnone, Option.getD_none, List.append_assoc, List.append_assoc]
    rfl
  refine ⟨hstep, inline_oneLine_iff i, fun actions ha => ?_⟩
  have hecho : Inline ("  " ++ echo) ↔ PlainEnds i := by
    rw [← inline_oneLine_iff, inline_append_iff, inline_append_iff]
    exact ⟨fun h => h.2.2, fun h => ⟨by decide, by decide, h⟩⟩
  refine ⟨fun hmem => hecho.mp (inline_of_mem_sourceLines hmem), fun hplain => ?_⟩
  have hinline : Inline echo := (inline_append_iff.mp (hecho.mpr hplain)).2
  have hadded := mem_stepLines hinline.unbroken (List.cons_ne_nil _ _) hstep
  rw [configured_eq_stack (List.ne_nil_of_mem ha)]
  refine mem_sourceLines_stack (hecho.mpr hplain) ?_
  exact List.mem_append_left _ (List.mem_append_right _ (List.mem_flatMap_of_mem ha hadded))

/-- A line feed is taken out, with the carriage return before it. -/
theorem echo_iff_line_feed :
    let s : Settings := .ofFramework .playwright
    let a : Action := (Action.click "#a").instructed " hum\r\nalong "
    let i : Text := "hum\r\nalong"
    let locator := Locator.resolve s.framework s.locators a.selector
    a.assertion? = some ⟨.present, some i⟩ ∧
      Instruction.compile Instruction.defaultCeiling s.framework ⟨a.selector, locator⟩ i = none ∧
      ("  // User validation: hum along" : Text) ∈
        sourceLines (configured s [.click "#b", a, .click "#c"]) := by
  intro s a i locator
  have hrequest : a.assertion? = some ⟨.present, some i⟩ := by decide +kernel
  have hnone : Instruction.compile Instruction.defaultCeiling s.framework ⟨a.selector, locator⟩ i =
      none := by decide +kernel
  obtain ⟨-, -, hmem⟩ := echo_iff hrequest rfl hnone
  exact ⟨hrequest, hnone, (hmem [.click "#b", a, .click "#c"] (by simp)).mpr (by decide)⟩

/-- What follows a carriage return in the instruction is a line of code. -/
example : ("along()" : Text) ∈ sourceLines
    (configured (.ofFramework .playwright) [(Action.click "#a").instructed "hum\ralong()"]) := by
  decide +kernel

/-- So the echo is not always on one line: a carriage return that stands alone stays in it. -/
theorem not_forall_echo_inline :
    ¬ ∀ (s : Settings) (a : Action) (request : RequestedAssertion) (i : Text),
      a.assertion? = some request → request.instruction = some i →
      Instruction.compile Instruction.defaultCeiling s.framework
        ⟨a.selector, Locator.resolve s.framework s.locators a.selector⟩ i = none →
      ∃ text : Text, Inline text ∧
        step s a = Template.render (s.templates.forAssertion request.kind)
          (Locator.resolve s.framework s.locators a.selector) a.selector a.value? ++
            '\n' :: (echoLead ++ text) := by
  intro h
  let s : Settings := .ofFramework .playwright
  let a : Action := (Action.click "#a").instructed "hum\ralong()"
  have hnone : Instruction.compile Instruction.defaultCeiling s.framework
      ⟨a.selector, Locator.resolve s.framework s.locators a.selector⟩ "hum\ralong()" = none := by
    decide +kernel
  obtain ⟨text, htext, hstep⟩ := h s a ⟨.present, some "hum\ralong()"⟩ _ (by decide +kernel) rfl hnone
  have hechoed : step s a = Template.render (s.templates.forAssertion .present)
      (Locator.resolve s.framework s.locators a.selector) a.selector a.value? ++
        '\n' :: (echoLead ++ "hum\ralong()") := by decide +kernel
  have hsame : '\n' :: (echoLead ++ text) = '\n' :: (echoLead ++ "hum\ralong()") :=
    List.append_cancel_left (hstep.symm.trans hechoed)
  obtain rfl := List.append_cancel_left (List.cons.inj hsame).2
  exact absurd htext (by decide)

end Cuesheet.Script
