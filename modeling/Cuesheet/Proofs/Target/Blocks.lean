import Cuesheet.Target.Blocks
import Cuesheet.Target.Matching
import Cuesheet.Proofs.Script.Bracket
import Cuesheet.Proofs.Script.LineEnd
import Cuesheet.Proofs.Text.Digit

/-!
Brackets of code shapes.

The shapes that frameworks share close what they open if the code put into them does. An action under
a condition and a handler stand on lines of their own, so they may end in a comment; the message of a
log line stands among brackets, and so it has to be free of them. Numbers and literal patterns bring
no bracket into the code around them.
-/

namespace Cuesheet

open Script

/-! ### Numbers and patterns -/

theorem inert_ofNat (n : Nat) : Inert (Text.ofNat n) := by
  intro c hc
  have hbracket : c ∉ brackets := Text.not_mem_of_mem_ofNat hc (by decide)
  exact ⟨Bool.eq_false_iff.mpr fun h => hbracket (mem_of_isBracket h),
    Text.not_mem_of_mem_ofNat hc (by decide)⟩

theorem inline_ofNat (n : Nat) : Inline (Text.ofNat n) := fun _ hc =>
  Text.not_mem_of_mem_ofNat hc (by decide)

theorem mem_literalPattern {c : Char} {t : Text} (h : c ∈ Text.literalPattern t) :
    c = '\\' ∨ c ∈ t := by
  induction t with
  | nil => exact absurd h List.not_mem_nil
  | cons d t ih =>
    rw [Text.literalPattern] at h
    split at h
    · rcases List.mem_cons.mp h with rfl | h
      · exact .inl rfl
      · rcases List.mem_cons.mp h with rfl | h
        · exact .inr (List.mem_cons_self ..)
        · exact (ih h).imp_right (List.mem_cons_of_mem d)
    · rcases List.mem_cons.mp h with rfl | h
      · exact .inr (List.mem_cons_self ..)
      · exact (ih h).imp_right (List.mem_cons_of_mem d)

/-- A pattern holds the text's characters, and backslashes besides. -/
theorem mem_literalPattern_iff {c : Char} (hc : c ≠ '\\') {t : Text} :
    c ∈ Text.literalPattern t ↔ c ∈ t := by
  refine ⟨fun h => (mem_literalPattern h).resolve_left hc, fun h => ?_⟩
  induction t with
  | nil => exact absurd h List.not_mem_nil
  | cons d t ih =>
    rw [Text.literalPattern]
    rcases List.mem_cons.mp h with rfl | h
    · split <;> simp
    · split <;> simp [ih h]

theorem Script.Slashless.literalPattern {t : Text} (h : Slashless t) :
    Slashless (Text.literalPattern t) :=
  ⟨fun hc => (mem_literalPattern hc).elim (by decide) h.no_slash,
    fun hc => (mem_literalPattern hc).elim (by decide) h.unbroken⟩

theorem literalPattern_ne_nil {t : Text} (h : t ≠ []) : Text.literalPattern t ≠ [] := by
  obtain ⟨c, t, rfl⟩ := List.exists_cons_of_ne_nil h
  rw [Text.literalPattern]
  split <;> exact List.cons_ne_nil _ _

theorem Script.Inert.literalPattern {t : Text} (h : Inert t) : Inert (Text.literalPattern t) := by
  intro c hc
  rcases mem_literalPattern hc with rfl | hc
  · decide
  · exact h c hc

namespace Target

/-! ### Shared shapes -/

/-- The last line of a block closes it, whatever the line above ends in. -/
theorem awaitedFrom_closing (m : Mode) (a : List Char) :
    awaitedFrom m ('\x7d' :: a) "\n\x7d" = some a := by
  cases m <;> rfl

theorem block_ifBlock {condition action : Text} (hcondition : Expression condition)
    (haction : Block action) : Block (ifBlock condition action) := by
  intro a
  have hif : Takes .code a "if (" .code (')' :: a) := ⟨rfl, rfl⟩
  have hthen : Takes .code (')' :: a) ") \x7b\n" .code ('\x7d' :: a) := ⟨rfl, rfl⟩
  have hline := (hif.append (hcondition _)).append hthen
  unfold ifBlock
  rw [List.append_assoc, awaitedFrom_append, hline.awaited, hline.mode, Option.bind_some,
    awaitedFrom_append, haction.indent, Option.bind_some, awaitedFrom_closing]

theorem block_tryBlock {handler : Text} (hhandler : Inert handler) : Block (tryBlock handler) := by
  intro a
  have hlines : Takes .code a "try \x7b\n  // assertion\n\x7d catch (e) \x7b\n" .code ('\x7d' :: a) :=
    ⟨rfl, rfl⟩
  unfold tryBlock
  rw [List.append_assoc, awaitedFrom_append, hlines.awaited, hlines.mode, Option.bind_some,
    awaitedFrom_append, hhandler.expression.block.indent, Option.bind_some, awaitedFrom_closing]

/-- A step that is tried again is told in a comment, by the condition or by its wording. -/
theorem block_retryComment {condition : Option Text} {wording : Text}
    (hcondition : ∀ c ∈ condition, Text.Unbroken c) (hwording : Text.Unbroken wording) :
    Block (retryComment (condition.getD wording)) := by
  intro a
  have htold : Text.Unbroken (condition.getD wording) := by
    cases condition with
    | none => exact hwording
    | some c => exact hcondition c rfl
  have hlead : Takes .code a "// Retry logic: while (!(await (" .comment a := ⟨rfl, rfl⟩
  have hend : Takes .comment a "))) \x7b /* retry */ \x7d" .comment a := .comment (by decide) a
  exact ((hlead.append (.comment htold a)).append hend).awaited

theorem block_logLine {log message : Text} {condition : Option Text} (hlog : Expression log)
    (hmessage : Inert message) (hcondition : ∀ c ∈ condition, Expression c) :
    Block (logLine log message condition) := by
  cases condition with
  | none =>
    intro a
    have hopen : Takes .code a "('" .code (')' :: a) := ⟨rfl, rfl⟩
    have hclose : Takes .code (')' :: a) "');" .code a := ⟨rfl, rfl⟩
    exact ((((hlog a).append hopen).append (hmessage.expression _)).append hclose).awaited
  | some condition =>
    intro a
    have hif : Takes .code a "if (" .code (')' :: a) := ⟨rfl, rfl⟩
    have hthen : Takes .code (')' :: a) ") \x7b " .code ('\x7d' :: a) := ⟨rfl, rfl⟩
    have hopen : Takes .code ('\x7d' :: a) "('" .code (')' :: '\x7d' :: a) := ⟨rfl, rfl⟩
    have hclose : Takes .code (')' :: '\x7d' :: a) "'); \x7d" .code a := ⟨rfl, rfl⟩
    exact ((((((hif.append (hcondition _ rfl _)).append hthen).append (hlog _)).append hopen).append
      (hmessage.expression _)).append hclose).awaited

end Target

end Cuesheet
