import Cuesheet.Proofs.Instruction.Separator

/-!
Cutting a text, and reading its parts alone.

A position is *covered* if a literal of the text lies over it. A text is left whole exactly if every
separator of it is covered (`splitAt?_eq_none_iff`). A cut goes through no literal, so a part alone
has the literals that it has within the text: no part is cut again at the same word, nor at a word
that does not cut the text (`Part.uncut`, `Part.uncut_of_uncut`).
-/

namespace Cuesheet.Instruction

/-- A literal of the text lies over the position. -/
def Covered (t : Text) (j : Nat) : Prop := ∃ l ∈ literals t, l.start ≤ j ∧ j < l.stop

/-- Every separator in the text starts within a literal. -/
def Uncut (word t : Text) : Prop := ∀ j, Leads word (t.drop j) → Covered t j

variable {word t : Text}

theorem any_covers_iff {j : Nat} : (literals t).any (·.covers j) = true ↔ Covered t j := by
  simp [Covered, Span.covers]

theorem mem_openSeparators {s : Span} :
    s ∈ openSeparators word t ↔ s ∈ separators word t ∧ ¬ Covered t s.start := by
  rw [openSeparators, List.mem_filter, Bool.not_eq_true', ← Bool.not_eq_true, any_covers_iff]

/-- A literal over the start of a separator lies over all of it. -/
theorem Covered.of_separator (hw : Joint word) {j m : Nat} (h : Covered t j) (hjm : j ≤ m)
    (hm : m < j + separatorLength word (t.drop j)) : Covered t m := by
  obtain ⟨l, hl, hstart, hstop⟩ := h
  refine ⟨l, hl, by omega, ?_⟩
  obtain ⟨k, q, hk, hq, hquote⟩ := exists_last_quote (s := .outside true) trivial hl
  by_contra hle
  have hlt : k - j < separatorLength word (t.drop j) := by omega
  have hget : (t.drop j)[k - j]? = some q := by
    rw [List.getElem?_drop, ← hq]
    congr 1
    omega
  rw [no_quote_of_lt_separatorLength hw hlt hget] at hquote
  exact Bool.noConfusion hquote

/-- A separator that no literal covers is one of those that cut, or lies over one. -/
theorem exists_open_of_leads (hw : Joint word) {j : Nat} (h : Leads word (t.drop j))
    (hc : ¬ Covered t j) : ∃ s ∈ openSeparators word t, s.start ≤ j ∧ j < s.stop := by
  obtain ⟨s, hs, hstart, hstop⟩ := exists_separator_of_leads hw (i := 0) (Nat.zero_le j) h
  rw [Nat.zero_add] at hstart hstop
  refine ⟨s, mem_openSeparators.mpr ⟨hs, fun hcov => hc ?_⟩, hstart, hstop⟩
  obtain ⟨k, _, hk, _, hlen⟩ := mem_separatorsFrom hs
  rw [Nat.zero_add] at hk
  exact hcov.of_separator hw hstart (by rw [hk] at hlen ⊢; omega)

/-- A separator in a piece of a text is one in the text. -/
theorem leads_within {p : Text} (u v : Text) {j : Nat} (h : Leads word (p.drop j)) :
    j < p.length ∧ Leads word ((u ++ (p ++ v)).drop (u.length + j)) := by
  have hj : j < p.length := by
    obtain ⟨c, rest, he, _⟩ := h.head
    rw [← List.drop_eq_nil_iff.not.trans Nat.not_le, he]
    exact List.cons_ne_nil _ _
  refine ⟨hj, ?_⟩
  rw [← List.drop_drop, List.drop_left, List.drop_append_of_le_length (by omega)]
  exact h.append v

theorem openSeparators_eq_nil_iff (hw : Joint word) : openSeparators word t = [] ↔ Uncut word t := by
  constructor
  · intro h j hlead
    by_contra hc
    obtain ⟨s, hs, _⟩ := exists_open_of_leads hw hlead hc
    rw [h] at hs
    exact List.not_mem_nil hs
  · intro h
    rw [List.eq_nil_iff_forall_not_mem]
    intro s hs
    obtain ⟨hsep, hc⟩ := mem_openSeparators.mp hs
    obtain ⟨j, _, hj, hlead, _⟩ := mem_separatorsFrom hsep
    rw [Nat.zero_add] at hj
    exact hc (hj ▸ h j hlead)

/-- **A text is left whole exactly if every separator of it starts within a literal.** -/
theorem splitAt?_eq_none_iff (hw : Joint word) : splitAt? word t = none ↔ Uncut word t := by
  rw [← openSeparators_eq_nil_iff hw, splitAt?]
  split
  next h => simp [h]
  next h => simpa using h

/-! ### Blanks around a text -/

theorem not_covered_of_length_le {j : Nat} (h : t.length ≤ j) : ¬ Covered t j := by
  rintro ⟨l, hl, _, hj⟩
  have := (bounds_of_mem_literalsFrom hl).2.1
  omega

/-- Positions in what the scan enters outside a literal are covered as in that text alone. -/
theorem covered_append_right {u p : Text} (hs : Seam u p)
    (hu : scanEnd (.outside true) 0 u = .outside true) {j : Nat} :
    Covered (u ++ p) (u.length + j) ↔ Covered p j := by
  have he : literals (u ++ p) = literals u ++ (literals p).map (Span.shift u.length) := by
    rw [literals_append hs, hu, literalsFrom_outside]
  simp only [Covered, he, List.mem_append, List.mem_map]
  constructor
  · rintro ⟨l, hl | ⟨l, hl, rfl⟩, hstart, hstop⟩
    · have := (bounds_of_mem_literalsFrom hl).2.1
      omega
    · simp only [Span.shift] at hstart hstop
      exact ⟨l, hl, by omega, by omega⟩
  · rintro ⟨l, hl, hstart, hstop⟩
    refine ⟨l.shift u.length, .inr ⟨l, hl, rfl⟩, ?_, ?_⟩ <;>
      simp only [Span.shift] <;> omega

/-- Positions of a text stay covered, or not, before what no open literal reaches. -/
theorem covered_append_left {p v : Text} (hs : Seam p v)
    (hv : v = [] ∨ ¬ Covered (p ++ v) p.length) {j : Nat} (hj : j < p.length) :
    Covered (p ++ v) j ↔ Covered p j := by
  have he := literals_append hs
  constructor
  · rintro ⟨l, hl, hstart, hstop⟩
    rw [he] at hl
    rcases List.mem_append.mp hl with hl' | hl'
    · exact ⟨l, hl', hstart, hstop⟩
    · -- a literal that ends after the seam covers the seam
      have hb := bounds_of_mem_literalsFrom hl'
      rcases hv with rfl | hv
      · rw [List.length_nil] at hb
        omega
      · exact absurd ⟨l, he ▸ hl, by omega, hb.1⟩ hv
  · rintro ⟨l, hl, hbounds⟩
    exact ⟨l, by rw [he]; exact List.mem_append_left _ hl, hbounds⟩

/-! ### After a cut -/

theorem Gap.seam_left {gap : Text} (hg : Gap word gap) (a x : Text) : Seam a (gap ++ x) := by
  obtain ⟨c, rest, rfl, hc⟩ := hg.head
  exact .inl (closesBefore_of_head (by simpa using hc))

theorem Gap.seam_right {gap : Text} (hg : Gap word gap) (a x : Text) : Seam (a ++ gap) x := by
  obtain ⟨c, hc, hb⟩ := hg.last
  refine .inr fun d hd => ?_
  rw [Option.mem_def] at hc hd
  rw [List.getLast?_append, hc, Option.some_or] at hd
  rwa [← Option.some.inj hd]

/-- After a separator that cuts, the scan starts afresh, or a quote is open that never closes. -/
theorem scanEnd_or_not_covered (hw : Joint word) {u gap x : Text} (hg : Gap word gap)
    (hopen : ¬ Covered (u ++ gap ++ x) u.length) :
    scanEnd (.outside true) 0 (u ++ gap) = .outside true ∨
      ∀ j, (u ++ gap).length ≤ j → ¬ Covered (u ++ gap ++ x) j := by
  have hseam : Seam u gap := by simpa using hg.seam_left u []
  have hstep : scanEnd (.outside true) 0 (u ++ gap) =
      (scanEnd (.outside true) 0 u).afterBlank := by
    rw [scanEnd_append (s := .outside true) trivial hseam,
      scanEnd_of_no_quote (scanEnd_sound (s := .outside true) trivial) (hg.no_quote hw) hg.last]
  cases hend : scanEnd (.outside true) 0 u with
  | outside canOpen => exact .inl (by rw [hstep, hend]; rfl)
  | inside q k =>
    right
    rw [hend] at hstep
    have hk : k < u.length := by
      rcases scanEnd_inside hend with h | h
      · exact QuoteState.noConfusion h
      · omega
    have he := literals_append (hg.seam_right u x)
    rw [hstep, QuoteState.afterBlank] at he
    rintro j hj ⟨l, hl, hstart, hstop⟩
    rcases literalsFrom_inside q k (u ++ gap).length x with hnone | ⟨n, rest, hsome, hn⟩
    · rw [hnone, List.append_nil] at he
      rw [he] at hl
      have := (bounds_of_mem_literalsFrom hl).2.1
      omega
    · -- the literal that the open quote begins would cover the separator
      refine hopen ⟨⟨k, n⟩, ?_, Nat.le_of_lt hk, ?_⟩
      · rw [he, hsome]
        exact List.mem_append_right _ (List.mem_cons_self ..)
      · rw [List.length_append] at hn
        show u.length < n
        omega

/-! ### Parts -/

/-- `p` is the part of the text between `u` and `v`: cuts at the word bound it, and none goes
through it. -/
structure Part (word t u p v : Text) : Prop where
  whole : t = u ++ (p ++ v)
  left : u = [] ∨ ∃ u' gap, u = u' ++ gap ∧ Gap word gap ∧ ¬ Covered t u'.length
  right : v = [] ∨ (∃ gap rest, v = gap ++ rest ∧ Gap word gap) ∧ ¬ Covered t (u.length + p.length)
  between : ∀ s ∈ openSeparators word t, s.stop ≤ u.length ∨ u.length + p.length ≤ s.start

/-- A part alone has the literals that it has within the text. -/
theorem Part.covered (hw : Joint word) {u p v : Text} (h : Part word t u p v) {j : Nat}
    (hj : j < p.length) (hc : Covered t (u.length + j)) : Covered p j := by
  have hseam : Seam p v := by
    rcases h.right with rfl | ⟨⟨gap, rest, rfl, hg⟩, _⟩
    · exact .inl rfl
    · exact hg.seam_left p rest
  have hright : ∀ hu : Seam u (p ++ v), scanEnd (.outside true) 0 u = .outside true →
      v = [] ∨ ¬ Covered (p ++ v) p.length := by
    intro hu hfresh
    rcases h.right with hv | ⟨_, hv⟩
    · exact .inl hv
    · refine .inr fun hcov => hv ?_
      rw [h.whole]
      exact (covered_append_right hu hfresh).mpr hcov
  rcases h.left with rfl | ⟨u', gap, rfl, hg, hopen⟩
  · have hu : Seam [] (p ++ v) := .inr (by simp)
    rw [h.whole] at hc
    exact (covered_append_left hseam (hright hu rfl) hj).mp ((covered_append_right hu rfl).mp hc)
  · have hu : Seam (u' ++ gap) (p ++ v) := hg.seam_right u' _
    rw [h.whole] at hopen hc
    rcases scanEnd_or_not_covered hw hg hopen with hfresh | hnone
    · exact (covered_append_left hseam (hright hu hfresh) hj).mp
        ((covered_append_right hu hfresh).mp hc)
    · exact absurd hc (hnone _ (Nat.le_add_right _ _))

/-- A part of a text that a word does not cut is not cut by it either. -/
theorem Part.uncut_of_uncut (hw : Joint word) {u p v : Text} (h : Part word t u p v)
    {word' : Text} (ht : Uncut word' t) : Uncut word' p := by
  intro j hl
  obtain ⟨hj, hlead⟩ := leads_within u v hl
  rw [← h.whole] at hlead
  exact h.covered hw hj (ht _ hlead)

/-- **No part is cut again at the same word.** -/
theorem Part.uncut (hw : Joint word) {u p v : Text} (h : Part word t u p v) : Uncut word p := by
  intro j hl
  obtain ⟨hj, hlead⟩ := leads_within u v hl
  rw [← h.whole] at hlead
  apply h.covered hw hj
  by_contra hc
  obtain ⟨s, hs, hstart, hstop⟩ := exists_open_of_leads hw hlead hc
  rcases h.between s hs with hbefore | hafter <;> omega

/-! ### The parts of a cut text -/

/-- A piece between spans in order: they bound it, and none overlaps it. -/
theorem mem_piecesFrom {spans : List Span} {i : Nat} {p : Text}
    (hord : spans.Pairwise fun s s' => s.stop ≤ s'.start)
    (hin : ∀ s ∈ spans, i ≤ s.start ∧ s.start < s.stop ∧ s.stop ≤ t.length) (hi : i ≤ t.length)
    (hp : p ∈ piecesFrom t i spans) :
    ∃ a b, i ≤ a ∧ a ≤ b ∧ b ≤ t.length ∧ p = (t.take b).drop a ∧
      (a = i ∨ ∃ s ∈ spans, s.stop = a) ∧ (b = t.length ∨ ∃ s ∈ spans, s.start = b) ∧
      ∀ s ∈ spans, s.stop ≤ a ∨ b ≤ s.start := by
  induction spans generalizing i with
  | nil =>
    rw [piecesFrom, List.mem_singleton] at hp
    exact ⟨i, t.length, Nat.le_refl i, hi, Nat.le_refl _, by rw [hp, List.take_length], .inl rfl,
      .inl rfl, by simp⟩
  | cons s spans ih =>
    obtain ⟨hfirst, hord⟩ := List.pairwise_cons.mp hord
    obtain ⟨⟨his, hlt, hle⟩, hin⟩ := List.forall_mem_cons.mp hin
    rcases List.mem_cons.mp hp with rfl | hp
    · refine ⟨i, s.start, Nat.le_refl i, his, by omega, rfl, .inl rfl,
        .inr ⟨s, List.mem_cons_self .., rfl⟩, ?_⟩
      refine List.forall_mem_cons.mpr ⟨.inr (Nat.le_refl _), fun s' hs' => .inr ?_⟩
      have := hfirst s' hs'
      omega
    · have hrest : ∀ s' ∈ spans, s.stop ≤ s'.start ∧ s'.start < s'.stop ∧ s'.stop ≤ t.length :=
        fun s' hs' => ⟨hfirst s' hs', (hin s' hs').2⟩
      obtain ⟨a, b, hia, hab, hbt, he, ha, hb, hbetween⟩ := ih hord hrest hle hp
      refine ⟨a, b, by omega, hab, hbt, he, .inr ?_, ?_, ?_⟩
      · rcases ha with rfl | ⟨s', hs', ha⟩
        · exact ⟨s, List.mem_cons_self .., rfl⟩
        · exact ⟨s', List.mem_cons_of_mem s hs', ha⟩
      · rcases hb with hb | ⟨s', hs', hb⟩
        · exact .inl hb
        · exact .inr ⟨s', List.mem_cons_of_mem s hs', hb⟩
      · exact List.forall_mem_cons.mpr ⟨.inl hia, hbetween⟩

/-- A separator of the text is a gap in it. -/
theorem exists_gap_of_mem_separators (hw : Joint word) {s : Span} (hs : s ∈ separators word t) :
    ∃ gap rest, Gap word gap ∧ t.drop s.start = gap ++ rest ∧ s.stop = s.start + gap.length := by
  obtain ⟨j, _, hj, hlead, hstop⟩ := mem_separatorsFrom hs
  obtain ⟨gap, rest, hg, he, hrest⟩ := hlead.exists_append
  rw [Nat.zero_add] at hj
  rw [he, separatorLength_append hw hg hrest] at hstop
  exact ⟨gap, rest, hg, by rw [hj, he], hstop⟩

/-- The parts of a cut text lie in it between cuts. -/
theorem part_of_mem_splitAt? (hw : Joint word) {parts : List Text} {p : Text}
    (h : splitAt? word t = some parts) (hp : p ∈ parts) : ∃ u v, Part word t u p v := by
  have hpieces : p ∈ piecesFrom t 0 (openSeparators word t) := by
    rw [splitAt?] at h
    split at h
    · exact absurd h (by simp)
    · rw [← Option.some.inj h] at hp
      exact hp
  have hord : (openSeparators word t).Pairwise fun s s' => s.stop ≤ s'.start :=
    (separatorsFrom_pairwise word 0 0 t).filter _
  have hin : ∀ s ∈ openSeparators word t, 0 ≤ s.start ∧ s.start < s.stop ∧ s.stop ≤ t.length :=
    fun s hs => ⟨Nat.zero_le _, stop_le_length hw (mem_openSeparators.mp hs).1⟩
  obtain ⟨a, b, _, hab, hbt, he, ha, hb, hbetween⟩ :=
    mem_piecesFrom hord hin (Nat.zero_le _) hpieces
  have hu : (t.take a).length = a := by simp; omega
  have hp' : p.length = b - a := by rw [he]; simp; omega
  refine ⟨t.take a, t.drop b, ?_, ?_, ?_, ?_⟩
  · rw [he, ← List.append_assoc]
    conv => lhs; rw [← List.take_append_drop b t]
    congr 1
    conv => lhs; rw [← List.take_append_drop a (t.take b)]
    rw [List.take_take, Nat.min_eq_left hab]
  · rcases ha with rfl | ⟨s, hs, rfl⟩
    · exact .inl rfl
    · obtain ⟨hsep, hcov⟩ := mem_openSeparators.mp hs
      obtain ⟨gap, rest, hg, hdrop, hstop⟩ := exists_gap_of_mem_separators hw hsep
      have hstart : (t.take s.start).length = s.start := by simp; omega
      refine .inr ⟨t.take s.start, gap, ?_, hg, by rwa [hstart]⟩
      rw [hstop, List.take_add, hdrop, List.take_left]
  · rcases hb with rfl | ⟨s, hs, rfl⟩
    · exact .inl (List.drop_length)
    · obtain ⟨hsep, hcov⟩ := mem_openSeparators.mp hs
      obtain ⟨gap, rest, hg, hdrop, _⟩ := exists_gap_of_mem_separators hw hsep
      refine .inr ⟨⟨gap, rest, hdrop, hg⟩, ?_⟩
      rw [hu, hp']
      rwa [Nat.add_sub_cancel' hab]
  · intro s hs
    rw [hu, hp', Nat.add_sub_cancel' hab]
    exact hbetween s hs

/-- A part that is cut out of a text is a piece of it. -/
theorem Part.isInfix {u p v : Text} (h : Part word t u p v) : p <:+: t :=
  ⟨u, v, by rw [h.whole, List.append_assoc]⟩

/-! ### Outer blanks -/

theorem scanEnd_of_blank {u : Text} (hu : ∀ c ∈ u, Text.isBlank c = true) :
    scanEnd (.outside true) 0 u = .outside true := by
  by_cases hne : u = []
  · rw [hne, scanEnd]
  · refine scanEnd_of_no_quote (s := .outside true) trivial
      (fun c hc => isQuote_false_of_isBlank (hu c hc)) ⟨u.getLast hne, ?_, hu _ (List.getLast_mem hne)⟩
    exact List.getLast?_eq_some_getLast hne

/-- No literal reaches into blanks that end a text. -/
theorem not_covered_of_blank {p v : Text} (hv : ∀ c ∈ v, Text.isBlank c = true) :
    ¬ Covered (p ++ v) p.length := by
  rintro ⟨l, hl, hstart, hstop⟩
  have hseam : Seam p v := .inl (closesBefore_of_head fun c hc => hv c (List.mem_of_head? hc))
  rw [literals_append hseam, literalsFrom_of_no_quote (scanEnd_sound (s := .outside true) trivial)
    (fun c hc => isQuote_false_of_isBlank (hv c hc)), List.append_nil] at hl
  exact not_covered_of_length_le (Nat.le_refl _) ⟨l, hl, hstart, hstop⟩

/-- Without its outer blanks a text is not cut either. -/
theorem Uncut.trim {p : Text} (h : Uncut word p) : Uncut word (Text.trim p) := by
  obtain ⟨u, v, hu, hv, he⟩ := Text.exists_trim p
  intro j hl
  obtain ⟨hj, hlead⟩ := leads_within u v hl
  rw [← he] at hlead
  have hcov := h _ hlead
  rw [he] at hcov
  have hseam : Seam u (Text.trim p ++ v) := .inr fun c hc => hu c (List.mem_of_getLast? hc)
  have hseam' : Seam (Text.trim p) v :=
    .inl (closesBefore_of_head fun c hc => hv c (List.mem_of_head? hc))
  rw [covered_append_right hseam (scanEnd_of_blank hu)] at hcov
  exact (covered_append_left hseam' (.inr (not_covered_of_blank hv)) hj).mp hcov

end Cuesheet.Instruction
