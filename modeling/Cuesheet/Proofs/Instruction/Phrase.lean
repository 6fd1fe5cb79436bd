import Mathlib.Data.List.TakeWhile
import Cuesheet.Instruction.Phrase
import Cuesheet.Proofs.Text.Word

/-!
What a phrase says of its text.

Where a phrase is found, the text is the words of the phrase with the pieces between them: each
statement here writes the text out again. It follows that the pieces are not empty and lie in the
text as they are.
-/

namespace Cuesheet.Instruction

variable {t : Text}

theorem restAfter?_eq_some_iff {lead rest : Text} :
    restAfter? lead t = some rest ↔ t = lead ++ rest ∧ rest ≠ [] := by
  rw [restAfter?, Option.filter_eq_some_iff, Text.after?_eq_some_iff, decide_eq_true_eq]

/-- Of two leads, one leads the text. -/
theorem restAfter?_orElse {a b rest : Text}
    (h : ((restAfter? a t).orElse fun _ => restAfter? b t) = some rest) :
    (t = a ++ rest ∨ t = b ++ rest) ∧ rest ≠ [] := by
  cases hc : restAfter? a t with
  | some r =>
    rw [hc] at h
    obtain rfl := Option.some.inj h
    obtain ⟨he, hne⟩ := restAfter?_eq_some_iff.mp hc
    exact ⟨.inl he, hne⟩
  | none =>
    rw [hc] at h
    obtain ⟨he, hne⟩ := restAfter?_eq_some_iff.mp h
    exact ⟨.inr he, hne⟩

/-- A search at the starts of words finds its answer where the rest of the text gives it. -/
theorem findAtWord_eq_some {α : Type} {find : Text → Option α} {inWord : Bool} {a : α}
    (h : Text.findAtWord find inWord t = some a) : ∃ u v, t = u ++ v ∧ find v = some a := by
  induction t generalizing inWord with
  | nil => exact absurd h (by simp [Text.findAtWord])
  | cons c t ih =>
    rw [Text.findAtWord] at h
    split at h
    next b hb =>
      cases inWord with
      | true => exact absurd hb (by simp)
      | false => exact ⟨[], c :: t, rfl, hb.trans h⟩
    next =>
      obtain ⟨u, v, rfl, hv⟩ := ih h
      exact ⟨c :: u, v, rfl, hv⟩

/-- An answer after leading names is given by the rest of the text. -/
theorem afterNames_eq_some {α : Type} {find : Text → Option α} {fresh : Bool} {a : α}
    (h : afterNames find fresh t = some a) : ∃ u v, t = u ++ v ∧ find v = some a := by
  induction t generalizing fresh with
  | nil => exact absurd h (by simp [afterNames])
  | cons c t ih =>
    have hrest : ∀ {b : Bool}, afterNames find b t = some a →
        ∃ u v, c :: t = u ++ v ∧ find v = some a := by
      intro b hb
      obtain ⟨u, v, rfl, hv⟩ := ih hb
      exact ⟨c :: u, v, rfl, hv⟩
    rw [afterNames] at h
    split at h
    next b hb =>
      cases fresh with
      | true => exact ⟨[], c :: t, rfl, hb.trans h⟩
      | false => exact absurd hb (by simp)
    next =>
      split at h
      · exact hrest h
      · split at h
        · exact hrest h
        · exact absurd h (by simp)

/-! ### Checks -/

/-- Taking the quotes off leaves a piece of the value, and not nothing. -/
theorem exists_unquote (h : t ≠ []) :
    ∃ u v, t = u ++ (unquote t ++ v) ∧ unquote t ≠ [] := by
  obtain ⟨opened, u, ho, hne, he⟩ : ∃ opened u, t = u ++ opened ∧ opened ≠ [] ∧
      unquote t = if opened.length ≥ 2 && (opened.getLast?.any isQuote) then opened.dropLast
        else opened := by
    match t, h with
    | [c], _ => exact ⟨[c], [], rfl, by simp, rfl⟩
    | q :: c :: rest, _ =>
      by_cases hq : isQuote q = true
      · exact ⟨c :: rest, [q], rfl, by simp, by simp [unquote, hq]⟩
      · exact ⟨q :: c :: rest, [], rfl, by simp, by simp [unquote, hq]⟩
  rw [he]
  split
  next hlong =>
    rw [Bool.and_eq_true, decide_eq_true_eq] at hlong
    refine ⟨u, [opened.getLast hne], by rw [List.dropLast_concat_getLast]; exact ho, ?_⟩
    rw [← List.length_pos_iff, List.length_dropLast]
    omega
  next => exact ⟨u, [], by rw [List.append_nil]; exact ho, hne⟩

/-- The subject has a name where it needs one. -/
def Named : Subject → Prop
  | .attribute name => Text.Name name
  | .text | .value => True

theorem subject?_eq_some {subject : Subject} {rest : Text} (h : subject? t = some (subject, rest)) :
    t = subject.phrase ++ rest ∧ Named subject := by
  rw [subject?] at h
  split at h
  next r hr =>
    obtain ⟨rfl, rfl⟩ := Prod.mk.inj (Option.some.inj h)
    exact ⟨Text.eq_append_of_after? hr, trivial⟩
  next =>
    split at h
    next r hr =>
      obtain ⟨rfl, rfl⟩ := Prod.mk.inj (Option.some.inj h)
      exact ⟨Text.eq_append_of_after? hr, trivial⟩
    next =>
      split at h
      · exact absurd h (by simp)
      next r hr =>
        simp only at h
        split at h
        · exact absurd h (by simp)
        next hne =>
          simp only [Option.some.injEq, Prod.mk.injEq] at h
          obtain ⟨rfl, rfl⟩ := h
          refine ⟨?_, hne, fun _ hc => List.mem_takeWhile_imp hc⟩
          rw [Text.eq_append_of_after? hr]
          show _ = ("attribute " ++ r.takeWhile Text.isName) ++ r.dropWhile Text.isName
          rw [List.append_assoc, List.takeWhile_append_dropWhile]

theorem bareComparison?_eq_some {comparison : Comparison} {subject : Subject} {value : Text}
    (h : bareComparison? comparison t = some (subject, value)) :
    Named subject ∧ ∃ rest, rest ≠ [] ∧ value = unquote rest ∧
      t = subject.phrase ++ (" " ++ comparison.phrase ++ " " ++ rest) := by
  obtain ⟨⟨s, r⟩, hs, hr⟩ := Option.bind_eq_some_iff.mp h
  obtain ⟨rest, hrest, he⟩ := Option.map_eq_some_iff.mp hr
  obtain ⟨rfl, rfl⟩ := Prod.mk.inj he
  obtain ⟨ht, hnamed⟩ := subject?_eq_some hs
  obtain ⟨hrest, hne⟩ := restAfter?_eq_some_iff.mp hrest
  exact ⟨hnamed, rest, hne, rfl, by rw [ht, hrest]⟩

/-! ### Compound phrases -/

theorem afterThen?_eq_some {action : Text} (h : afterThen? t = some action) :
    (t = ", then " ++ action ∨ t = " then " ++ action) ∧ action ≠ [] := restAfter?_orElse h

theorem splitAtThen?_eq_some {condition action : Text}
    (h : splitAtThen? t = some (condition, action)) :
    condition ≠ [] ∧ ∃ rest, t = condition ++ rest ∧ afterThen? rest = some action := by
  induction t generalizing condition with
  | nil => exact absurd h (by simp [splitAtThen?])
  | cons c t ih =>
    rw [splitAtThen?] at h
    split at h
    next a ha =>
      obtain ⟨rfl, rfl⟩ := Prod.mk.inj (Option.some.inj h)
      exact ⟨by simp, t, rfl, ha⟩
    next =>
      obtain ⟨⟨condition', action'⟩, hsplit, he⟩ := Option.map_eq_some_iff.mp h
      obtain ⟨rfl, rfl⟩ := Prod.mk.inj he
      obtain ⟨_, rest, rfl, hrest⟩ := ih hsplit
      exact ⟨by simp, rest, rfl, hrest⟩

theorem conditional?_eq_some {condition action : Text}
    (h : conditional? t = some (condition, action)) :
    condition ≠ [] ∧ action ≠ [] ∧
      (t = "if " ++ (condition ++ (", then " ++ action)) ∨
        t = "if " ++ (condition ++ (" then " ++ action))) := by
  obtain ⟨r, hr, hsplit⟩ := Option.bind_eq_some_iff.mp h
  obtain ⟨hne, rest, rfl, hthen⟩ := splitAtThen?_eq_some hsplit
  obtain ⟨he, hane⟩ := afterThen?_eq_some hthen
  rw [Text.eq_append_of_after? hr]
  rcases he with rfl | rfl
  · exact ⟨hne, hane, .inl rfl⟩
  · exact ⟨hne, hane, .inr rfl⟩

theorem messageEnd?_eq_some {condition : Option Text} (h : messageEnd? t = some condition) :
    ∃ q rest, t = q :: rest ∧ isQuote q = true ∧
      (condition = none ∧ rest = [] ∨
        ∃ operand, condition = some operand ∧ rest = " if " ++ operand ∧ operand ≠ []) := by
  cases t with
  | nil => exact absurd h (by simp [messageEnd?])
  | cons q rest =>
    rw [messageEnd?] at h
    split at h
    · exact absurd h (by simp)
    next hq =>
      refine ⟨q, rest, rfl, by simpa using hq, ?_⟩
      split at h
      next hnil => exact .inl ⟨(Option.some.inj h).symm, hnil⟩
      next =>
        obtain ⟨operand, hr, he⟩ := Option.map_eq_some_iff.mp h
        obtain ⟨hrest, hne⟩ := restAfter?_eq_some_iff.mp hr
        exact .inr ⟨operand, he.symm, hrest, hne⟩

theorem splitAtMessageEnd?_eq_some {message : Text} {condition : Option Text}
    (h : splitAtMessageEnd? t = some (message, condition)) :
    message ≠ [] ∧ ∃ rest, t = message ++ rest ∧ messageEnd? rest = some condition := by
  induction t generalizing message with
  | nil => exact absurd h (by simp [splitAtMessageEnd?])
  | cons c t ih =>
    rw [splitAtMessageEnd?] at h
    split at h
    next condition' hend =>
      obtain ⟨rfl, rfl⟩ := Prod.mk.inj (Option.some.inj h)
      exact ⟨by simp, t, rfl, hend⟩
    next =>
      obtain ⟨⟨message', condition'⟩, hsplit, he⟩ := Option.map_eq_some_iff.mp h
      obtain ⟨rfl, rfl⟩ := Prod.mk.inj he
      obtain ⟨_, rest, rfl, hrest⟩ := ih hsplit
      exact ⟨by simp, rest, rfl, hrest⟩

theorem report?_eq_some {message : Text} {condition : Option Text}
    (h : report? t = some (message, condition)) :
    message ≠ [] ∧ ∃ q q' rest, isQuote q = true ∧ isQuote q' = true ∧
      t = "report " ++ q :: (message ++ q' :: rest) ∧
      (condition = none ∧ rest = [] ∨
        ∃ operand, condition = some operand ∧ rest = " if " ++ operand ∧ operand ≠ []) := by
  rw [report?] at h
  split at h
  next q r hr =>
    split at h
    next hq =>
      obtain ⟨hne, rest, rfl, hend⟩ := splitAtMessageEnd?_eq_some h
      obtain ⟨q', rest, rfl, hq', hcondition⟩ := messageEnd?_eq_some hend
      exact ⟨hne, q, q', rest, hq, hq', Text.eq_append_of_after? hr, hcondition⟩
    next => exact absurd h (by simp)
  next => exact absurd h (by simp)

theorem retryUntil?_eq_some {condition : Text} (h : retryUntil? t = some condition) :
    t = "retry until " ++ condition ∧ condition ≠ [] := restAfter?_eq_some_iff.mp h

theorem onFailure?_eq_some {handler : Text} (h : onFailure? t = some handler) :
    (t = "on failure, " ++ handler ∨ t = "on failure " ++ handler) ∧ handler ≠ [] :=
  restAfter?_orElse h

/-! ### Waiting -/

theorem exists_amount (rest : Text) : ∃ lead ∈ (["up to ", "for ", ""] : List Text),
    rest = lead ++ ((Text.after? "up to " rest).orElse fun _ => Text.after? "for " rest).getD rest := by
  cases hu : Text.after? "up to " rest with
  | some amount => exact ⟨"up to ", by simp, Text.eq_append_of_after? hu⟩
  | none =>
    cases hf : Text.after? "for " rest with
    | some amount => exact ⟨"for ", by simp, Text.eq_append_of_after? hf⟩
    | none => exact ⟨"", by simp, rfl⟩

theorem waitAt?_eq_some {digits what : Text} {unit : Nat}
    (h : waitAt? t = some (digits, unit, what)) :
    ∃ lead ∈ (["up to ", "for ", ""] : List Text), ∃ name, (name, unit) ∈ units ∧ digits ≠ [] ∧
      (∀ c ∈ digits, Text.isDecimalDigit c = true) ∧ what ≠ [] ∧
      t = "wait " ++ (lead ++ (digits ++ (" " ++ name ++ " for " ++ what))) := by
  obtain ⟨rest, hrest, h⟩ := Option.bind_eq_some_iff.mp h
  obtain ⟨lead, hlead, hamount⟩ := exists_amount rest
  simp only at h
  split at h
  · exact absurd h (by simp)
  next hne =>
    obtain ⟨⟨name, unit'⟩, hmem, hunit⟩ := List.exists_of_findSome?_eq_some h
    obtain ⟨what', hr, he⟩ := Option.map_eq_some_iff.mp hunit
    obtain ⟨hwhat, hwne⟩ := restAfter?_eq_some_iff.mp hr
    obtain ⟨rfl, hpair⟩ := Prod.mk.inj he
    obtain ⟨rfl, rfl⟩ := Prod.mk.inj hpair
    refine ⟨lead, hlead, name, hmem, hne, fun _ hc => List.mem_takeWhile_imp hc, hwne, ?_⟩
    rw [← hwhat, List.takeWhile_append_dropWhile, ← hamount, Text.eq_append_of_after? hrest]

theorem wait?_eq_some {digits what : Text} {unit : Nat} (h : wait? t = some (digits, unit, what)) :
    what ≠ [] ∧ what <:+ t := by
  obtain ⟨u, v, rfl, hv⟩ := findAtWord_eq_some h
  obtain ⟨lead, _, name, _, _, _, hne, rfl⟩ := waitAt?_eq_some hv
  refine ⟨hne, u ++ ("wait " ++ (lead ++ (digits ++ (" " ++ name ++ " for ")))), ?_⟩
  simp only [List.append_assoc]

end Cuesheet.Instruction
