import Cuesheet.Proofs.Instruction.Split
import Cuesheet.Proofs.Text.Lowercase

/-!
Joining texts by a separating word.

A text is `Joinable` at a word if it has no outer blanks, closes the literals it opens, and is not
cut at the word, not even where it ends. Joinable texts come apart again as they were joined
(`splitAt?_joined`): the scan for literals passes over a joint as over the start of a text, and the
separators that do not lie within a literal are exactly the joints.
-/

namespace Cuesheet.Instruction

/-- A text that comes apart again after it was joined to others by the word. -/
structure Joinable (word p : Text) : Prop where
  ne_nil : p ≠ []
  trimmed : Text.trim p = p
  lower : Text.lower p = p
  ends : EndsOutside p
  uncut : openSeparators word (p ++ " ") = []

instance (word p : Text) : Decidable (Joinable word p) :=
  decidable_of_iff (p ≠ [] ∧ Text.trim p = p ∧ Text.lower p = p ∧ EndsOutside p ∧
      openSeparators word (p ++ " ") = [])
    ⟨fun ⟨hne, ht, hl, he, hu⟩ => ⟨hne, ht, hl, he, hu⟩,
      fun h => ⟨h.ne_nil, h.trimmed, h.lower, h.ends, h.uncut⟩⟩

/-- The word with a space on either side. -/
def joint (word : Text) : Text := " " ++ (word ++ " ")

variable {word : Text}

/-! ### Literals past a joint -/

/-- Past a text that closes its literals no literal lies over it. -/
theorem covered_append_of_ends {p v : Text} (hs : Seam p v) (he : EndsOutside p) {j : Nat}
    (hj : j < p.length) : Covered (p ++ v) j ↔ Covered p j := by
  obtain ⟨canOpen, hend⟩ := he
  have hl := literals_append hs
  rw [hend] at hl
  constructor
  · rintro ⟨l, hmem, hstart, hstop⟩
    rw [hl] at hmem
    rcases List.mem_append.mp hmem with hmem | hmem
    · exact ⟨l, hmem, hstart, hstop⟩
    · obtain ⟨_, _, hle | ⟨q, hq⟩⟩ := bounds_of_mem_literalsFrom hmem
      · omega
      · exact QuoteState.noConfusion hq
  · rintro ⟨l, hmem, hbounds⟩
    exact ⟨l, by rw [hl]; exact List.mem_append_left _ hmem, hbounds⟩

/-- After a gap the scan of a text that closes its literals starts afresh. -/
theorem scanEnd_append_gap (hw : Joint word) {p gap : Text} (hg : Gap word gap)
    (he : EndsOutside p) : scanEnd (.outside true) 0 (p ++ gap) = .outside true := by
  obtain ⟨canOpen, hend⟩ := he
  have hseam : Seam p gap := by simpa using hg.seam_left p []
  rw [scanEnd_append (s := .outside true) trivial hseam, hend,
    scanEnd_of_no_quote (s := .outside canOpen) trivial (hg.no_quote hw) hg.last]
  rfl

theorem not_covered_gap (hw : Joint word) {p gap x : Text} (hg : Gap word gap)
    (he : EndsOutside p) : ¬ Covered (p ++ gap ++ x) p.length := by
  have hpos : 0 < gap.length := List.length_pos_iff.mpr hg.ne_nil
  rw [covered_append_of_ends (hg.seam_right p x) ⟨true, scanEnd_append_gap hw hg he⟩
    (by rw [List.length_append]; omega)]
  rintro ⟨l, hl, hstart, hstop⟩
  have hseam : Seam p gap := by simpa using hg.seam_left p []
  rw [literals_append hseam, literalsFrom_of_no_quote (scanEnd_sound (s := .outside true) trivial)
    (hg.no_quote hw), List.append_nil] at hl
  exact not_covered_of_length_le (Nat.le_refl _) ⟨l, hl, hstart, hstop⟩

/-! ### The first cut -/

namespace Joinable

variable {p : Text}

theorem last (h : Joinable word p) : ∀ c ∈ p.getLast?, Text.isBlank c = false :=
  (Text.trim_eq_self_iff.mp h.trimmed).last

theorem head (h : Joinable word p) : ∀ c ∈ p.head?, Text.isBlank c = false :=
  (Text.trim_eq_self_iff.mp h.trimmed).head

/-- A separator that begins in a joinable text lies within one of its literals, whatever is joined
to it. -/
theorem covered_of_leads (hw : Joint word) (h : Joinable word p) {x : Text} {j : Nat}
    (hj : j < p.length) (hl : Leads word ((p ++ (joint word ++ x)).drop j)) : Covered p j := by
  have hdrop : ∀ y : Text, (p ++ y).drop j = p.drop j ++ y :=
    fun y => List.drop_append_of_le_length (Nat.le_of_lt hj)
  have hne : p.drop j ≠ [] := by simpa using hj
  have hlast : ∀ c ∈ (p.drop j).getLast?, Text.isBlank c = false := by
    intro c hc
    refine h.last c ?_
    rw [Option.mem_def, ← List.take_append_drop j p, List.getLast?_append, Option.mem_def.mp hc]
    rfl
  have hspace : Leads word ((p ++ " ").drop j) := by
    rw [hdrop] at hl ⊢
    exact leads_append_space hw hne hlast (y := word ++ (" " ++ x)) (by simpa [joint] using hl)
  have hcov := (openSeparators_eq_nil_iff hw).mp h.uncut j hspace
  rwa [covered_append_of_ends (.inl rfl) h.ends hj] at hcov

theorem uncut_self (hw : Joint word) (h : Joinable word p) : Uncut word p := by
  intro j hl
  have hj := (leads_within [] [] hl).1
  refine h.covered_of_leads hw hj (x := []) ?_
  rw [List.drop_append_of_le_length (Nat.le_of_lt hj)]
  exact hl.append _

/-- The first cut of joined texts is the first joint, and the other cuts are those of the
rest. -/
theorem openSeparators_append (hw : Joint word) (h : Joinable word p) {x : Text}
    (hx : ∀ c ∈ x.head?, Text.isBlank c = false) :
    openSeparators word (p ++ (joint word ++ x)) =
      ⟨p.length, (p ++ joint word).length⟩ ::
        (openSeparators word x).map (Span.shift (p ++ joint word).length) := by
  have hg : Gap word (joint word) := gap_spaced word
  have hleft : Seam p (joint word ++ x) := hg.seam_left p x
  have hopen : ¬ Covered (p ++ (joint word ++ x)) p.length := by
    rw [← List.append_assoc]
    exact not_covered_gap hw hg h.ends
  have hcov : ∀ j < p.length, Leads word ((p ++ (joint word ++ x)).drop j) →
      Covered (p ++ (joint word ++ x)) j := fun j hj hl =>
    (covered_append_of_ends hleft h.ends hj).mpr (h.covered_of_leads hw hj hl)
  -- a separator within a literal ends there, so none reaches the joint
  have hends : ∀ j < p.length, Leads word ((p ++ (joint word ++ x)).drop j) →
      j + separatorLength word ((p ++ (joint word ++ x)).drop j) ≤ p.length := by
    intro j hj hl
    by_contra hlt
    exact hopen ((hcov j hj hl).of_separator hw (Nat.le_of_lt hj) (by omega))
  obtain ⟨first, hfirst, hseps⟩ := separatorsFrom_append (i := 0) (Nat.zero_le p.length) hends
  have hnone : first.filter
      (fun s => !(literals (p ++ (joint word ++ x))).any (·.covers s.start)) = [] := by
    rw [List.filter_eq_nil_iff]
    intro s hs
    obtain ⟨j, hj, hstart, hl⟩ := hfirst s hs
    rw [Bool.not_eq_true', Bool.not_eq_false, any_covers_iff, hstart, Nat.zero_add]
    exact hcov j hj hl
  have hrest : ∀ s : Span, (literals (p ++ (joint word ++ x))).any
      (·.covers (s.shift (p ++ joint word).length).start) = (literals x).any (·.covers s.start) := by
    intro s
    rw [Bool.eq_iff_iff, any_covers_iff, any_covers_iff, ← List.append_assoc]
    exact covered_append_right (hg.seam_right p x) (scanEnd_append_gap hw hg h.ends)
  rw [openSeparators, separators, hseps, Nat.zero_add, separatorsFrom_gap hw hg _ hx,
    List.filter_append, hnone, List.nil_append, List.filter_cons_of_pos, ← List.length_append]
  · congr 1
    have := separatorsFrom_shift word (p ++ joint word).length 0 0 x
    rw [Nat.add_zero] at this
    rw [this, List.filter_map, openSeparators, separators]
    congr 1
    exact List.filter_congr fun s _ => by simp only [Function.comp_apply, hrest]
  · rw [Bool.not_eq_true', ← Bool.not_eq_true, any_covers_iff]
    exact hopen

end Joinable

/-! ### All the cuts -/

/-- The texts with the word between neighbours. -/
abbrev joined (word : Text) (parts : List Text) : Text := Text.join (joint word) parts

theorem piecesFrom_shift (a t : Text) (i : Nat) (spans : List Span) :
    piecesFrom (a ++ t) (a.length + i) (spans.map (Span.shift a.length)) = piecesFrom t i spans := by
  induction spans generalizing i with
  | nil =>
    rw [List.map_nil, piecesFrom, piecesFrom, ← List.drop_drop, List.drop_left]
  | cons s spans ih =>
    rw [List.map_cons, piecesFrom, piecesFrom, Span.shift, ih, List.take_length_add_append,
      ← List.drop_drop, List.drop_left]

theorem joined_cons_cons (word p q : Text) (ps : List Text) :
    joined word (p :: q :: ps) = p ++ (joint word ++ joined word (q :: ps)) := by
  rw [joined, Text.join, List.append_assoc]

theorem head?_joined (word : Text) {p : Text} (hp : p ≠ []) (ps : List Text) :
    (joined word (p :: ps)).head? = p.head? := by
  cases ps with
  | nil => rfl
  | cons q ps =>
    obtain ⟨c, p, rfl⟩ := List.exists_cons_of_ne_nil hp
    rw [joined_cons_cons]
    rfl

theorem joined_ne_nil (word : Text) {p : Text} (hp : p ≠ []) (ps : List Text) : joined word (p :: ps) ≠ [] := by
  intro h
  have hhead := head?_joined word hp ps
  rw [h] at hhead
  exact hp (List.head?_eq_none_iff.mp hhead.symm)

theorem trimmed_joined {p : Text} {ps : List Text} (h : ∀ r ∈ p :: ps, Joinable word r) :
    Text.Trimmed (joined word (p :: ps)) := by
  have hp := h p (List.mem_cons_self ..)
  refine ⟨by rw [head?_joined word hp.ne_nil]; exact hp.head, ?_⟩
  induction ps generalizing p with
  | nil => exact hp.last
  | cons q ps ih =>
    have hrest := (List.forall_mem_cons.mp h).2
    have hq := hrest q (List.mem_cons_self ..)
    have hne := joined_ne_nil word hq.ne_nil ps
    have hlast := ih hrest hq
    rw [List.getLast?_eq_some_getLast hne] at hlast
    simpa [joined_cons_cons, List.getLast?_append, List.getLast?_eq_some_getLast hne] using hlast

theorem mem_joined {ps : List Text} {c : Char} (hc : c ∈ joined word ps) :
    c ∈ joint word ∨ ∃ p ∈ ps, c ∈ p := by
  induction ps with
  | nil => exact absurd hc List.not_mem_nil
  | cons p ps ih =>
    cases ps with
    | nil => exact .inr ⟨p, List.mem_cons_self .., hc⟩
    | cons q ps =>
      rw [joined_cons_cons, List.mem_append, List.mem_append] at hc
      rcases hc with hc | hc | hc
      · exact .inr ⟨p, List.mem_cons_self .., hc⟩
      · exact .inl hc
      · rcases ih hc with hc | ⟨r, hr, hc⟩
        · exact .inl hc
        · exact .inr ⟨r, List.mem_cons_of_mem p hr, hc⟩

theorem lower_joined {ps : List Text} (hw : Text.lower (joint word) = joint word)
    (h : ∀ p ∈ ps, Joinable word p) : Text.lower (joined word ps) = joined word ps := by
  rw [Text.lower_eq_self_iff]
  intro c hc
  rcases mem_joined hc with hc | ⟨p, hp, hc⟩
  · exact Text.lower_eq_self_iff.mp hw c hc
  · exact Text.lower_eq_self_iff.mp (h p hp).lower c hc

/-- The pieces of joined texts at the cuts of the whole are the texts. -/
theorem piecesFrom_joined (hw : Joint word) {p : Text} {ps : List Text}
    (h : ∀ r ∈ p :: ps, Joinable word r) :
    piecesFrom (joined word (p :: ps)) 0 (openSeparators word (joined word (p :: ps))) = p :: ps := by
  induction ps generalizing p with
  | nil =>
    have huncut := (h p (List.mem_cons_self ..)).uncut_self hw
    rw [show joined word [p] = p from rfl, (openSeparators_eq_nil_iff hw).mpr huncut, piecesFrom,
      List.drop_zero]
  | cons q ps ih =>
    obtain ⟨hp, hrest⟩ := List.forall_mem_cons.mp h
    have hq := hrest q (List.mem_cons_self ..)
    have hx : ∀ c ∈ (joined word (q :: ps)).head?, Text.isBlank c = false := by
      rw [head?_joined word hq.ne_nil]
      exact hq.head
    have hpieces := ih hrest
    rw [joined_cons_cons, hp.openSeparators_append hw hx, piecesFrom, List.take_left,
      List.drop_zero, ← List.append_assoc]
    have hshift := piecesFrom_shift (p ++ joint word) (joined word (q :: ps)) 0
      (openSeparators word (joined word (q :: ps)))
    rw [Nat.add_zero] at hshift
    rw [hshift, hpieces]

/-- **Joinable texts come apart as they were joined.** -/
theorem splitAt?_joined (hw : Joint word) {parts : List Text} (hn : 2 ≤ parts.length)
    (h : ∀ p ∈ parts, Joinable word p) : splitAt? word (joined word parts) = some parts := by
  match parts, hn with
  | p :: q :: ps, _ =>
    have hpieces := piecesFrom_joined hw h
    obtain ⟨hp, hrest⟩ := List.forall_mem_cons.mp h
    have hq := hrest q (List.mem_cons_self ..)
    have hx : ∀ c ∈ (joined word (q :: ps)).head?, Text.isBlank c = false := by
      rw [head?_joined word hq.ne_nil]
      exact hq.head
    rw [splitAt?]
    split
    next hnone =>
      rw [joined_cons_cons, hp.openSeparators_append hw hx] at hnone
      exact absurd hnone (List.cons_ne_nil _ _)
    next => rw [hpieces]

end Cuesheet.Instruction
