import Cuesheet.Proofs.Instruction.Compound
import Cuesheet.Proofs.Instruction.Cut

/-!
Messages of reports.

A message may hold anything but its own quotes, and nothing in it cuts the instruction. But the end of a
message is looked for at either quote, while the literal that it stands in ends at the quote that opened
it. So a message is kept whole exactly if no other quote in it has an `if` after it (`read_message_iff`);
where one has, the report is of what stands before it, and what follows is taken for a condition.
-/

namespace Cuesheet.Instruction

variable {q : Char} {message : Text}

theorem settled_of_isQuote {c : Char} (h : isQuote c = true) : Text.Settled c := by
  rcases isQuote_cases h with rfl | rfl
  · exact Text.settled_ascii (by decide) (by decide)
  · exact Text.settled_ascii (by decide) (by decide)

/-- Neither "and" nor "or" cuts a quoted message, whatever it holds. -/
theorem undivided_message (hq : isQuote q = true) (hfree : q ∉ message)
    (hlower : Text.lower message = message) : Undivided ("report " ++ quoted q message) := by
  have hlead : ∀ c ∈ ("report " : Text), Text.Settled c :=
    Text.lower_eq_self_iff.mp (by decide +kernel)
  have hsettled : ∀ c ∈ "report " ++ quoted q message, Text.Settled c := by
    refine List.forall_mem_append.mpr ⟨hlead, List.forall_mem_cons.mpr ⟨settled_of_isQuote hq, ?_⟩⟩
    exact List.forall_mem_append.mpr ⟨Text.lower_eq_self_iff.mp hlower,
      List.forall_mem_singleton.mpr (settled_of_isQuote hq)⟩
  have huncut : ∀ word : Text, Text.Name word → word ≠ "report" →
      Uncut word ("report " ++ quoted q message) := by
    intro word hword hne
    have hlead : ∀ w ∈ (["report"] : List Text), Text.Name w ∧ w ≠ word := by
      intro w hw
      obtain rfl := List.mem_singleton.mp hw
      exact ⟨by decide, hne.symm⟩
    exact uncut_spaced hword hlead hq hfree
  refine ⟨Text.trim_of_trimmed ⟨fun c hc => ?_, fun c hc => ?_⟩, Text.lower_eq_self_iff.mpr hsettled,
    ?_, ?_⟩
  · obtain rfl := Option.some.inj hc
    decide
  · rw [quoted, ← List.cons_append, ← List.append_assoc, List.getLast?_concat] at hc
    exact Option.some.inj hc ▸ isBlank_false_of_isQuote hq
  · exact (openSeparators_eq_nil_iff joint_and).mpr (huncut "and" (by decide) (by decide))
  · exact (openSeparators_eq_nil_iff joint_or).mpr (huncut "or" (by decide) (by decide))

/-- Where a quoted message ends: at the first quote in it with an `if` after it, or with its literal. -/
theorem report?_message_quoted (hq : isQuote q = true) (hne : message ≠ []) :
    report? ("report " ++ quoted q message) = some (match splitFirst beforeGuard? message with
      | some (front, guard) => (front, some (guard ++ [q]))
      | none => (message, none)) := by
  have hend : messageEnd? [q] = some none := by
    rw [messageEnd?, hq]
    rfl
  rw [quoted, report?_append_cons, if_pos hq, (endsBefore_messageEnd hq).splitFirst_append hne, hend]
  cases splitFirst beforeGuard? message with
  | none => rfl
  | some cut => rfl

/-- A message is reported up to the first quote in it with an `if` after it. -/
theorem read_quotedReport (hq : isQuote q = true) (hne : message ≠ []) (hfree : q ∉ message)
    (hlower : Text.lower message = message) (below : Nat) :
    read (below + 1) ("report " ++ quoted q message) = match splitFirst beforeGuard? message with
      | some (front, guard) => (read below (guard ++ [q])).map fun c => .report front (some c)
      | none => some (.report message none) := by
  rw [read_of_report? (undivided_message hq hfree hlower) (report?_message_quoted hq hne)]
  cases splitFirst beforeGuard? message with
  | none => rfl
  | some cut =>
    simp only [optionalOperand]
    cases read below (cut.2 ++ [q]) with
    | none => rfl
    | some c => rfl

/-! ### The first guard -/

/-- The message holds a quote, after a first character, with an `if` and perhaps more after it. -/
def Guarded (front guard message : Text) : Prop :=
  front ≠ [] ∧ ∃ c, isQuote c = true ∧ message = front ++ c :: (" if " ++ guard)

theorem guarded_of_splitFirst {front guard : Text}
    (h : splitFirst beforeGuard? message = some (front, guard)) : Guarded front guard message := by
  obtain ⟨hne, rest, he, hguard⟩ := splitFirst_eq_some h
  obtain ⟨c, hc, rfl⟩ := beforeGuard?_eq_some hguard
  exact ⟨hne, c, hc, he⟩

/-- Where something is found, the first cut is there or before it. -/
theorem exists_splitFirst {β : Type} {find : Text → Option β} {front rest : Text} {r : β}
    (hne : front ≠ []) (hr : find rest = some r) :
    ∃ cut, splitFirst find (front ++ rest) = some cut ∧ cut.1.length ≤ front.length := by
  induction front with
  | nil => exact absurd rfl hne
  | cons c front ih =>
    rw [List.cons_append, splitFirst]
    cases hfind : find (front ++ rest) with
    | some r' => exact ⟨_, rfl, Nat.succ_le_succ (Nat.zero_le _)⟩
    | none =>
      have hfront : front ≠ [] := by
        rintro rfl
        exact absurd (hfind.symm.trans hr) (by simp)
      obtain ⟨cut, hcut, hle⟩ := ih hfront
      exact ⟨_, congrArg (Option.map _) hcut, Nat.succ_le_succ hle⟩

theorem Guarded.exists_splitFirst {front guard : Text} (h : Guarded front guard message) :
    ∃ cut, splitFirst beforeGuard? message = some cut ∧ cut.1.length ≤ front.length := by
  obtain ⟨hne, c, hc, rfl⟩ := h
  refine Instruction.exists_splitFirst hne (r := guard) ?_
  rw [beforeGuard?, if_pos hc, Text.after?_append]

/-- **A message is reported whole exactly if no quote in it has an `if` after it.** Otherwise the report
is of what stands before the first such quote, under the condition that the rest of the literal says,
its closing quote included. -/
theorem read_message_iff (hq : isQuote q = true) (hne : message ≠ []) (hfree : q ∉ message)
    (hlower : Text.lower message = message) (below : Nat) :
    (read (below + 1) ("report " ++ quoted q message) = some (.report message none) ↔
      ∀ front guard, ¬ Guarded front guard message) ∧
    ∀ front guard, Guarded front guard message →
      (∀ front' guard', Guarded front' guard' message → front.length ≤ front'.length) →
      read (below + 1) ("report " ++ quoted q message) =
        (read below (guard ++ [q])).map fun c => .report front (some c) := by
  rw [read_quotedReport hq hne hfree hlower]
  cases hcut : splitFirst beforeGuard? message with
  | none =>
    have hwhole : ∀ front guard, ¬ Guarded front guard message := by
      intro front guard h
      obtain ⟨cut, hsome, -⟩ := h.exists_splitFirst
      exact absurd (hcut.symm.trans hsome) (by simp)
    exact ⟨⟨fun _ => hwhole, fun _ => rfl⟩, fun front guard h => absurd h (hwhole front guard)⟩
  | some cut =>
    obtain ⟨front, guard⟩ := cut
    have hguarded := guarded_of_splitFirst hcut
    refine ⟨⟨fun h => ?_, fun h => absurd hguarded (h _ _)⟩, fun front' guard' h hfirst => ?_⟩
    · obtain ⟨c, -, hc⟩ := Option.map_eq_some_iff.mp h
      exact absurd (Clause.report.inj hc).2 (Option.some_ne_none c)
    · obtain ⟨_, hsome, hle⟩ := h.exists_splitFirst
      obtain rfl := Option.some.inj (hcut.symm.trans hsome)
      have hlength : front.length = front'.length := Nat.le_antisymm hle (hfirst _ _ hguarded)
      obtain ⟨-, c, -, he⟩ := hguarded
      obtain ⟨-, c', -, he'⟩ := h
      obtain ⟨rfl, hrest⟩ := List.append_inj (he.symm.trans he') hlength
      obtain rfl : guard = guard' := List.append_cancel_left (List.cons.inj hrest).2
      rfl

/-- The message may hold the other quote, both separating words, an `if` and a line feed. -/
theorem read_message_iff_apostrophes :
    let message : Text := "don't stop, if it's 'on' and on,\nor 'off' if"
    message ≠ [] ∧ '"' ∉ message ∧ Text.lower message = message ∧
      read 1 ("report " ++ quoted '"' message) = some (.report message none) := by
  intro message
  have hfree : '"' ∉ message := by decide
  have hlower : Text.lower message = message := by decide +kernel
  have hcut : splitFirst beforeGuard? message = none := by decide +kernel
  refine ⟨by decide, hfree, hlower, (read_message_iff (by decide) (by decide) hfree hlower 0).1.mpr ?_⟩
  intro front guard h
  obtain ⟨cut, hsome, -⟩ := h.exists_splitFirst
  exact absurd (hcut.symm.trans hsome) (by simp)

/-- The other quote ends a message where an `if` follows it, and the rest of the literal is taken for a
condition. -/
theorem not_forall_read_message : ¬ ∀ (q : Char) (message : Text) (below : Nat), isQuote q = true →
    message ≠ [] → q ∉ message → Text.lower message = message →
    read (below + 1) ("report " ++ quoted q message) = some (.report message none) := by
  intro h
  have hread := h '"' "a' if b" 15 (by decide) (by decide) (by decide) (by decide +kernel)
  exact absurd hread (by decide +kernel)

end Cuesheet.Instruction
