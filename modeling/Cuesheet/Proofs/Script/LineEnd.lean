import Mathlib.Data.List.Infix
import Mathlib.Data.List.Basic
import Cuesheet.Proofs.Text.Line

/-!
Where the lines of a script end.

A reader of a script ends a line at a line feed, at a carriage return and at the two separators of
Unicode, and a comment ends where its line does. That is more than ends a line of a text, so a text
that was put on one line may still be several lines to the reader (`sourceLines`); it is one exactly
if it is `Inline`.
-/

namespace Cuesheet.Script

/-- The characters at which a line of a script ends. -/
def lineEnds : List Char := ['\n', '\r', '\u2028', '\u2029']

/-- No line of a script ends in the text. -/
def Inline (t : Text) : Prop := ∀ c ∈ t, c ∉ lineEnds

instance (t : Text) : Decidable (Inline t) := List.decidableBAll _ t

section

variable {t u : Text}

theorem Inline.not_mem (h : Inline t) {c : Char} (hc : c ∈ lineEnds) : c ∉ t :=
  fun hmem => h c hmem hc

theorem inline_iff : Inline t ↔ ∀ c ∈ lineEnds, c ∉ t :=
  ⟨fun h _ hc => h.not_mem hc, fun h c hmem hc => h c hc hmem⟩

theorem Inline.unbroken (h : Inline t) : Text.Unbroken t := h.not_mem (by decide)

theorem inline_append_iff : Inline (t ++ u) ↔ Inline t ∧ Inline u := List.forall_mem_append

theorem Inline.append (ht : Inline t) (hu : Inline u) : Inline (t ++ u) :=
  inline_append_iff.mpr ⟨ht, hu⟩

theorem Inline.of_isInfix (h : Inline t) (hu : u <:+: t) : Inline u :=
  fun c hc => h c (hu.mem hc)

/-- A character between two texts that lack it. -/
theorem mem_between_iff {c : Char} {a b : Text} (ha : c ∉ a) (hb : c ∉ b) :
    c ∈ a ++ t ++ b ↔ c ∈ t := by
  rw [List.mem_append, List.mem_append, or_iff_left hb, or_iff_right ha]

theorem Inline.mem_between_iff {c : Char} (hc : c ∈ lineEnds) {a b : Text} (ha : Inline a)
    (hb : Inline b) : c ∈ a ++ t ++ b ↔ c ∈ t :=
  Script.mem_between_iff (ha.not_mem hc) (hb.not_mem hc)

theorem inline_join_iff {sep : Text} (hsep : Inline sep) {ts : List Text} :
    Inline (Text.join sep ts) ↔ ∀ t ∈ ts, Inline t := by
  refine ⟨fun h t ht => h.of_isInfix (Text.isInfix_join sep ht), fun h => inline_iff.mpr ?_⟩
  exact fun c hc => Text.not_mem_join (hsep.not_mem hc) fun t ht => (h t ht).not_mem hc

end

/-! ### The lines of a script -/

/-- The lines of a script, without their ends. A carriage return and a line feed end one line
together. -/
def sourceLines : Text → List Text
  | [] => [[]]
  | '\r' :: '\n' :: t => [] :: sourceLines t
  | c :: t => if c ∈ lineEnds then [] :: sourceLines t else (sourceLines t).modifyHead (c :: ·)

theorem sourceLines_ne_nil (t : Text) : sourceLines t ≠ [] := by
  fun_induction sourceLines t with
  | case1 | case2 | case3 => exact List.cons_ne_nil _ _
  | case4 c t _ _ ih => simpa using ih

theorem sourceLines_cons {c : Char} (hc : c ∉ lineEnds) (t : Text) :
    sourceLines (c :: t) = (sourceLines t).modifyHead (c :: ·) := by
  rw [sourceLines, if_neg hc]
  rintro t' rfl
  exact absurd (by decide) hc

/-- A text in which no line ends goes on the first line of what follows. -/
theorem Inline.sourceLines_append {l : Text} (h : Inline l) (t : Text) :
    sourceLines (l ++ t) = (sourceLines t).modifyHead (l ++ ·) := by
  induction l with
  | nil =>
    show sourceLines t = (sourceLines t).modifyHead id
    rw [List.modifyHead_id]
    rfl
  | cons c l ih =>
    obtain ⟨hc, hl⟩ := List.forall_mem_cons.mp h
    rw [List.cons_append, sourceLines_cons hc, ih hl, List.modifyHead_modifyHead]
    rfl

theorem Inline.sourceLines {l : Text} (h : Inline l) : sourceLines l = [l] := by
  have happend := h.sourceLines_append []
  rw [List.append_nil] at happend
  rw [happend, Script.sourceLines, List.modifyHead_cons, List.append_nil]

/-- What follows a line feed keeps its lines, after at least one other. -/
theorem sourceLines_suffix (t u : Text) :
    sourceLines u <:+ (sourceLines (t ++ '\n' :: u)).tail := by
  fun_induction sourceLines t with
  | case1 => exact List.suffix_rfl
  | case2 t ih => exact ih.trans (List.tail_suffix _)
  | case3 c t hpair hend ih =>
    by_cases hreturn : c = '\r' ∧ t = []
    · obtain ⟨rfl, rfl⟩ := hreturn
      exact List.suffix_rfl
    · have hline : sourceLines (c :: (t ++ '\n' :: u)) = [] :: sourceLines (t ++ '\n' :: u) := by
        rw [sourceLines, if_pos hend]
        rintro rest rfl hrest
        cases t with
        | nil => exact hreturn ⟨rfl, rfl⟩
        | cons d t => exact hpair t rfl (congrArg (· :: t) (List.cons.inj hrest).1)
      rw [List.cons_append, hline]
      exact ih.trans (List.tail_suffix _)
  | case4 c t _ hend ih =>
    rw [List.cons_append, sourceLines_cons hend, List.tail_modifyHead]
    exact ih

/-- Texts in which no line ends, one below the other, are the lines of the script. -/
theorem sourceLines_stack {ts : List Text} (hne : ts ≠ []) (h : ∀ t ∈ ts, Inline t) :
    sourceLines (Text.stack ts) = ts := by
  induction ts with
  | nil => exact absurd rfl hne
  | cons t ts ih =>
    obtain ⟨ht, hts⟩ := List.forall_mem_cons.mp h
    by_cases hnil : ts = []
    · rw [hnil]
      exact ht.sourceLines
    · have hbreak : sourceLines ('\n' :: Text.stack ts) = [] :: sourceLines (Text.stack ts) := rfl
      rw [Text.stack_cons hnil, ht.sourceLines_append, hbreak, ih hnil hts, List.modifyHead_cons,
        List.append_nil]

/-- Of texts one below the other, those in which no line ends are lines of the script. -/
theorem mem_sourceLines_stack {ts : List Text} {l : Text} (hl : Inline l) (hmem : l ∈ ts) :
    l ∈ sourceLines (Text.stack ts) := by
  induction ts with
  | nil => exact absurd hmem List.not_mem_nil
  | cons t ts ih =>
    by_cases hnil : ts = []
    · subst hnil
      obtain rfl := List.mem_singleton.mp hmem
      rw [show Text.stack [l] = l from rfl, hl.sourceLines]
      exact List.mem_singleton_self l
    · rw [Text.stack_cons hnil]
      rcases List.mem_cons.mp hmem with rfl | hmem
      · have hbreak : sourceLines ('\n' :: Text.stack ts) = [] :: sourceLines (Text.stack ts) := rfl
        rw [hl.sourceLines_append, hbreak, List.modifyHead_cons, List.append_nil]
        exact List.mem_cons_self ..
      · exact List.mem_of_mem_tail ((sourceLines_suffix t _).mem (ih hmem))

theorem inline_of_mem_sourceLines {t l : Text} (h : l ∈ sourceLines t) : Inline l := by
  fun_induction sourceLines t generalizing l with
  | case1 => exact List.mem_singleton.mp h ▸ List.forall_mem_nil _
  | case2 t ih | case3 _ t _ _ ih =>
    rcases List.mem_cons.mp h with rfl | h
    · exact List.forall_mem_nil _
    · exact ih h
  | case4 c t _ hc ih =>
    obtain ⟨first, rest, he⟩ := List.exists_cons_of_ne_nil (sourceLines_ne_nil t)
    rw [he, List.modifyHead_cons] at h
    rw [he] at ih
    rcases List.mem_cons.mp h with rfl | h
    · exact List.forall_mem_cons.mpr ⟨hc, ih (List.mem_cons_self ..)⟩
    · exact ih (List.mem_cons_of_mem first h)

/-- A text in which no line ends goes on the last line of what stands before. -/
theorem Inline.exists_lastLine {l : Text} (h : Inline l) (t : Text) :
    ∃ above last, Script.sourceLines t = above ++ [last] ∧
      Script.sourceLines (t ++ l) = above ++ [last ++ l] := by
  fun_induction Script.sourceLines t with
  | case1 => exact ⟨[], [], rfl, h.sourceLines⟩
  | case2 t ih =>
    obtain ⟨above, last, ht, htl⟩ := ih
    refine ⟨[] :: above, last, by rw [ht]; rfl, ?_⟩
    rw [List.cons_append, List.cons_append, Script.sourceLines, htl]
    rfl
  | case3 c t hpair hend ih =>
    obtain ⟨above, last, ht, htl⟩ := ih
    refine ⟨[] :: above, last, by rw [ht]; rfl, ?_⟩
    rw [List.cons_append, Script.sourceLines, if_pos hend, htl]
    · rfl
    rintro rest rfl hrest
    cases t with
    | nil => exact h '\n' (by rw [List.nil_append] at hrest; rw [hrest]; simp) (by decide)
    | cons d t => exact hpair t rfl (congrArg (· :: t) (List.cons.inj hrest).1)
  | case4 c t _ hc ih =>
    obtain ⟨above, last, ht, htl⟩ := ih
    rw [List.cons_append, sourceLines_cons hc, ht, htl]
    cases above with
    | nil => exact ⟨[], c :: last, rfl, rfl⟩
    | cons first above => exact ⟨(c :: first) :: above, last, rfl, rfl⟩

end Cuesheet.Script
