import Mathlib.Data.List.TakeWhile
import Cuesheet.Instruction.Separator
import Cuesheet.Proofs.Instruction.Literal
import Cuesheet.Proofs.Text.Blank

/-!
Separators of a text.

A separating word (`Joint`) between two runs of blanks is a `Gap`, and a text that begins with one is
said to lead with a separator (`Leads`). The separators of a text are disjoint, in order and gaps
(`separatorsFrom_pairwise`, `mem_separatorsFrom`), and wherever the rest of the text leads with a
separator one of them stands (`exists_separator_of_leads`), though it may have started earlier.
-/

namespace Cuesheet.Instruction

/-- A word that can separate: it is a word, and no part of it can open or close a literal. -/
structure Joint (word : Text) : Prop where
  ne_nil : word ≠ []
  no_blank : ∀ c ∈ word, Text.isBlank c = false
  no_quote : ∀ c ∈ word, isQuote c = false

theorem joint_and : Joint "and" :=
  ⟨by decide, Text.forall_of_any_eq_false (by decide), Text.forall_of_any_eq_false (by decide)⟩

theorem joint_or : Joint "or" :=
  ⟨by decide, Text.forall_of_any_eq_false (by decide), Text.forall_of_any_eq_false (by decide)⟩

/-- The word between two runs of blanks. -/
structure Gap (word gap : Text) : Prop where
  split : ∃ before after, gap = before ++ (word ++ after) ∧ before ≠ [] ∧ after ≠ [] ∧
    (∀ c ∈ before, Text.isBlank c = true) ∧ ∀ c ∈ after, Text.isBlank c = true

/-- A separator begins the text. -/
def Leads (word t : Text) : Prop := ∃ gap, Gap word gap ∧ gap <+: t

variable {word gap t : Text}

/-! ### Gaps -/

/-- The word with one space on either side. -/
theorem blank_space : ∀ c ∈ (" " : Text), Text.isBlank c = true := List.all_eq_true.mp (by decide)

theorem gap_spaced (word : Text) : Gap word (" " ++ (word ++ " ")) :=
  ⟨⟨" ", " ", rfl, by decide, by decide, blank_space, blank_space⟩⟩

theorem Gap.no_quote (hw : Joint word) (h : Gap word gap) : ∀ c ∈ gap, isQuote c = false := by
  obtain ⟨before, after, rfl, _, _, hb, ha⟩ := h.split
  intro c hc
  rcases List.mem_append.mp hc with hc | hc
  · exact isQuote_false_of_isBlank (hb c hc)
  · rcases List.mem_append.mp hc with hc | hc
    · exact hw.no_quote c hc
    · exact isQuote_false_of_isBlank (ha c hc)

theorem Gap.head (h : Gap word gap) : ∃ c rest, gap = c :: rest ∧ Text.isBlank c = true := by
  obtain ⟨before, after, rfl, hbne, _, hb, _⟩ := h.split
  obtain ⟨c, before, rfl⟩ := List.exists_cons_of_ne_nil hbne
  exact ⟨c, _, rfl, hb c (List.mem_cons_self ..)⟩

theorem Gap.last (h : Gap word gap) : ∃ c ∈ gap.getLast?, Text.isBlank c = true := by
  obtain ⟨before, after, rfl, _, hane, _, ha⟩ := h.split
  refine ⟨after.getLast hane, ?_, ha _ (List.getLast_mem hane)⟩
  simp [List.getLast?_eq_some_getLast hane]

theorem Gap.ne_nil (h : Gap word gap) : gap ≠ [] := by
  obtain ⟨c, rest, rfl, _⟩ := h.head
  exact List.cons_ne_nil _ _

theorem Leads.head (h : Leads word t) : ∃ c rest, t = c :: rest ∧ Text.isBlank c = true := by
  obtain ⟨gap, hg, rest, rfl⟩ := h
  obtain ⟨c, gap, rfl, hc⟩ := hg.head
  exact ⟨c, gap ++ rest, rfl, hc⟩

theorem Leads.append (h : Leads word t) (u : Text) : Leads word (t ++ u) := by
  obtain ⟨gap, hg, hp⟩ := h
  exact ⟨gap, hg, hp.trans (List.prefix_append t u)⟩

/-! ### The length of a separator -/

/-- The separator at the front is the longest gap there. -/
theorem separatorLength_append (hw : Joint word) (hg : Gap word gap) {rest : Text}
    (hrest : ∀ c ∈ rest.head?, Text.isBlank c = false) :
    separatorLength word (gap ++ rest) = gap.length := by
  obtain ⟨before, after, rfl, hbne, hane, hb, ha⟩ := hg.split
  have hhead : ∀ c ∈ (word ++ (after ++ rest)).head?, Text.isBlank c = false := by
    obtain ⟨c, w, rfl⟩ := List.exists_cons_of_ne_nil hw.ne_nil
    simpa using hw.no_blank c (List.mem_cons_self ..)
  have hbefore : countWhile Text.isBlank (before ++ (word ++ (after ++ rest))) = before.length := by
    rw [countWhile, Text.takeWhile_append_of_head hb hhead]
  have hafter : countWhile Text.isBlank (after ++ rest) = after.length := by
    rw [countWhile, Text.takeWhile_append_of_head ha hrest]
  have hb0 : before.length ≠ 0 := by simpa using hbne
  have ha0 : after.length ≠ 0 := by simpa using hane
  simp only [separatorLength, List.append_assoc, hbefore, List.drop_left, Text.after?_append,
    hafter, hb0, ha0, decide_false, Bool.or_self, Bool.false_eq_true, if_false]
  simp only [List.length_append]
  omega

/-- What leads with a separator is a longest gap and a rest. -/
theorem Leads.exists_append (h : Leads word t) :
    ∃ gap rest, Gap word gap ∧ t = gap ++ rest ∧ ∀ c ∈ rest.head?, Text.isBlank c = false := by
  obtain ⟨gap, hg, rest, rfl⟩ := h
  obtain ⟨before, after, rfl, hbne, hane, hb, ha⟩ := hg.split
  refine ⟨before ++ (word ++ (after ++ rest.takeWhile Text.isBlank)), rest.dropWhile Text.isBlank,
    ⟨⟨before, after ++ rest.takeWhile Text.isBlank, rfl, hbne, by simp [hane], hb, ?_⟩⟩, ?_, ?_⟩
  · intro c hc
    rcases List.mem_append.mp hc with hc | hc
    · exact ha c hc
    · exact List.mem_takeWhile_imp hc
  · simp [List.takeWhile_append_dropWhile]
  · intro c hc
    have := List.head?_dropWhile_not Text.isBlank rest
    rw [Option.mem_def] at hc
    rwa [hc] at this

theorem separatorLength_pos (hw : Joint word) (h : Leads word t) : 0 < separatorLength word t := by
  obtain ⟨gap, rest, hg, rfl, hrest⟩ := h.exists_append
  rw [separatorLength_append hw hg hrest]
  exact List.length_pos_iff.mpr hg.ne_nil

theorem leads_of_separatorLength (h : separatorLength word t ≠ 0) : Leads word t := by
  simp only [separatorLength] at h
  split at h
  · exact absurd rfl h
  next rest hafter =>
    split at h
    · exact absurd rfl h
    next hne =>
      simp only [Bool.or_eq_true, decide_eq_true_eq, not_or] at hne
      have hdrop : t.drop (countWhile Text.isBlank t) = t.dropWhile Text.isBlank := by
        conv => lhs; arg 2; rw [← List.takeWhile_append_dropWhile (p := Text.isBlank) (l := t)]
        rw [countWhile, List.drop_left]
      have ht : t = t.takeWhile Text.isBlank ++ (word ++ rest) := by
        rw [← Text.eq_append_of_after? hafter, hdrop, List.takeWhile_append_dropWhile]
      refine ⟨t.takeWhile Text.isBlank ++ (word ++ rest.takeWhile Text.isBlank),
        ⟨⟨_, _, rfl, ?_, ?_, fun _ hc => List.mem_takeWhile_imp hc,
          fun _ hc => List.mem_takeWhile_imp hc⟩⟩, rest.dropWhile Text.isBlank, ?_⟩
      · exact fun h0 => hne.1 (by rw [countWhile, h0]; rfl)
      · exact fun h0 => hne.2 (by rw [countWhile, h0]; rfl)
      · rw [List.append_assoc, List.append_assoc, List.takeWhile_append_dropWhile, ← ht]

/-- No character of a separator is a quote. -/
theorem no_quote_of_lt_separatorLength (hw : Joint word) {k : Nat} (hk : k < separatorLength word t)
    {c : Char} (hc : t[k]? = some c) : isQuote c = false := by
  have hlead := leads_of_separatorLength (Nat.ne_of_gt (Nat.zero_lt_of_lt hk))
  obtain ⟨gap, rest, hg, rfl, hrest⟩ := hlead.exists_append
  rw [separatorLength_append hw hg hrest] at hk
  rw [List.getElem?_append_left hk] at hc
  exact hg.no_quote hw c (List.mem_of_getElem? hc)

/-! ### The separators of a text -/

/-- Each separator stands where the rest of the text leads with one, after what is skipped. -/
theorem mem_separatorsFrom {i skip : Nat} {s : Span} (h : s ∈ separatorsFrom word i skip t) :
    ∃ j, skip ≤ j ∧ s.start = i + j ∧ Leads word (t.drop j) ∧
      s.stop = s.start + separatorLength word (t.drop j) := by
  induction t generalizing i skip with
  | nil => cases skip <;> simp [separatorsFrom] at h
  | cons c t ih =>
    have hrest : ∀ {n : Nat}, s ∈ separatorsFrom word (i + 1) n t →
        ∃ j, n + 1 ≤ j ∧ s.start = i + j ∧ Leads word ((c :: t).drop j) ∧
          s.stop = s.start + separatorLength word ((c :: t).drop j) := by
      intro n hn
      obtain ⟨j, hj, hstart, hlead, hstop⟩ := ih hn
      exact ⟨j + 1, by omega, by omega, hlead, hstop⟩
    cases skip with
    | succ skip => exact hrest h
    | zero =>
      rw [separatorsFrom] at h
      split at h
      · obtain ⟨j, _, hj⟩ := hrest h
        exact ⟨j, Nat.zero_le j, hj⟩
      next n hn =>
        rcases List.mem_cons.mp h with rfl | h
        · exact ⟨0, Nat.le_refl 0, rfl, leads_of_separatorLength (by simp [hn]), by simp [hn]⟩
        · obtain ⟨j, _, hj⟩ := hrest h
          exact ⟨j, Nat.zero_le j, hj⟩

/-- Where the rest of the text leads with a separator, one stands or has begun before. -/
theorem exists_separator_of_leads (hw : Joint word) {i skip j : Nat} (hj : skip ≤ j)
    (h : Leads word (t.drop j)) :
    ∃ s ∈ separatorsFrom word i skip t, s.start ≤ i + j ∧ i + j < s.stop := by
  induction t generalizing i skip j with
  | nil =>
    obtain ⟨c, rest, he, _⟩ := h.head
    simp at he
  | cons c t ih =>
    have hrest : ∀ {n m : Nat}, j = m + 1 → n ≤ m →
        ∃ s ∈ separatorsFrom word (i + 1) n t, s.start ≤ i + j ∧ i + j < s.stop := by
      rintro n m rfl hn
      obtain ⟨s, hs, hstart, hstop⟩ := ih (i := i + 1) hn h
      exact ⟨s, hs, by omega, by omega⟩
    cases skip with
    | succ skip => exact hrest (m := j - 1) (by omega) (by omega)
    | zero =>
      rw [separatorsFrom]
      split
      next h0 =>
        have hpos : j ≠ 0 := by
          rintro rfl
          exact absurd (separatorLength_pos hw h) (by rw [List.drop_zero, h0]; omega)
        exact hrest (m := j - 1) (by omega) (Nat.zero_le _)
      next n hn =>
        by_cases hlt : j < n + 1
        · exact ⟨_, List.mem_cons_self .., Nat.le_add_right i j, by simp only; omega⟩
        · obtain ⟨s, hs, hbounds⟩ := hrest (n := n) (m := j - 1) (by omega) (by omega)
          exact ⟨s, List.mem_cons_of_mem _ hs, hbounds⟩

/-- Separators do not overlap, and come in order. -/
theorem separatorsFrom_pairwise (word : Text) (i skip : Nat) (t : Text) :
    (separatorsFrom word i skip t).Pairwise fun s s' => s.stop ≤ s'.start := by
  induction t generalizing i skip with
  | nil => cases skip <;> exact .nil
  | cons c t ih =>
    cases skip with
    | succ skip => exact ih (i + 1) skip
    | zero =>
      rw [separatorsFrom]
      split
      · exact ih (i + 1) 0
      next n hn =>
        refine List.pairwise_cons.mpr ⟨?_, ih (i + 1) n⟩
        intro s hs
        obtain ⟨j, hj, hstart, _⟩ := mem_separatorsFrom hs
        show i + (n + 1) ≤ s.start
        omega

/-- A separator lies within the text. -/
theorem stop_le_length (hw : Joint word) {s : Span} (h : s ∈ separatorsFrom word 0 0 t) :
    s.start < s.stop ∧ s.stop ≤ t.length := by
  obtain ⟨j, _, hstart, hlead, hstop⟩ := mem_separatorsFrom h
  have hpos := separatorLength_pos hw hlead
  obtain ⟨gap, rest, hg, he, hrest⟩ := hlead.exists_append
  have hlen : t.length - j = gap.length + rest.length := by
    rw [← List.length_drop, he, List.length_append]
  rw [he, separatorLength_append hw hg hrest] at hstop hpos
  omega

/-! ### Separators of texts one after the other -/

theorem separatorsFrom_shift (word : Text) (n i skip : Nat) (t : Text) :
    separatorsFrom word (n + i) skip t = (separatorsFrom word i skip t).map (Span.shift n) := by
  induction t generalizing i skip with
  | nil => cases skip <;> rfl
  | cons c t ih =>
    cases skip with
    | succ skip => exact ih (i + 1) skip
    | zero =>
      rw [separatorsFrom, separatorsFrom]
      split
      · exact ih (i + 1) 0
      next m hm =>
        rw [List.map_cons, ← ih (i + 1) m, Span.shift, Nat.add_assoc, Nat.add_assoc]

theorem separatorsFrom_skip (word : Text) (i : Nat) (a b : Text) :
    separatorsFrom word i a.length (a ++ b) = separatorsFrom word (i + a.length) 0 b := by
  induction a generalizing i with
  | nil => rfl
  | cons c a ih =>
    rw [List.length_cons, List.cons_append, separatorsFrom, ih]
    congr 1
    omega

/-- A gap and what does not begin with a blank: the gap is the first separator. -/
theorem separatorsFrom_gap (hw : Joint word) (hg : Gap word gap) (i : Nat) {x : Text}
    (hx : ∀ c ∈ x.head?, Text.isBlank c = false) :
    separatorsFrom word i 0 (gap ++ x) =
      ⟨i, i + gap.length⟩ :: separatorsFrom word (i + gap.length) 0 x := by
  have hlen := separatorLength_append hw hg hx
  obtain ⟨c, rest, rfl, _⟩ := hg.head
  rw [List.cons_append, separatorsFrom]
  rw [List.cons_append] at hlen
  rw [hlen, List.length_cons]
  simp only [separatorsFrom_skip]
  congr 2
  omega

/-- If no separator that begins in `a` reaches beyond it, those are passed first. -/
theorem separatorsFrom_append {a b : Text} {i skip : Nat} (hskip : skip ≤ a.length)
    (ha : ∀ j < a.length, Leads word ((a ++ b).drop j) →
      j + separatorLength word ((a ++ b).drop j) ≤ a.length) :
    ∃ first, (∀ s ∈ first, ∃ j < a.length, s.start = i + j ∧ Leads word ((a ++ b).drop j)) ∧
      separatorsFrom word i skip (a ++ b) = first ++ separatorsFrom word (i + a.length) 0 b := by
  induction a generalizing i skip with
  | nil =>
    obtain rfl := Nat.le_zero.mp hskip
    exact ⟨[], by simp, rfl⟩
  | cons c a ih =>
    have hrest : ∀ {n : Nat}, n ≤ a.length →
        ∃ first, (∀ s ∈ first, ∃ j < (c :: a).length, s.start = i + j ∧
          Leads word ((c :: a ++ b).drop j)) ∧
          separatorsFrom word (i + 1) n (a ++ b) =
            first ++ separatorsFrom word (i + (c :: a).length) 0 b := by
      intro n hn
      obtain ⟨first, hfirst, he⟩ := ih (i := i + 1) hn fun j hj hl => by
        have := ha (j + 1) (Nat.succ_lt_succ hj) hl
        rw [List.length_cons, List.cons_append, List.drop_succ_cons] at this
        omega
      refine ⟨first, fun s hs => ?_, by rw [he, List.length_cons]; congr 2; omega⟩
      obtain ⟨j, hj, hstart, hl⟩ := hfirst s hs
      exact ⟨j + 1, Nat.succ_lt_succ hj, by omega, hl⟩
    cases skip with
    | succ skip => exact hrest (Nat.le_of_succ_le_succ hskip)
    | zero =>
      rw [List.cons_append, separatorsFrom]
      split
      · exact hrest (Nat.zero_le _)
      next n hn =>
        have hlead : Leads word ((c :: a ++ b).drop 0) :=
          leads_of_separatorLength (by rw [List.drop_zero, List.cons_append, hn]; exact n.succ_ne_zero)
        have hle := ha 0 (Nat.succ_pos _) hlead
        rw [List.drop_zero, List.cons_append, hn, List.length_cons] at hle
        obtain ⟨first, hfirst, he⟩ := hrest (n := n) (by omega)
        exact ⟨_ :: first, List.forall_mem_cons.mpr ⟨⟨0, Nat.succ_pos _, rfl, hlead⟩, hfirst⟩,
          congrArg (_ :: ·) he⟩

/-- Past a text that does not end with a blank, one space shows all of a separator that matters. -/
theorem leads_append_space (hw : Joint word) {d y : Text} (hne : d ≠ [])
    (hlast : ∀ c ∈ d.getLast?, Text.isBlank c = false) (h : Leads word (d ++ (" " ++ y))) :
    Leads word (d ++ " ") := by
  obtain ⟨gap, hg, rest, he⟩ := h
  obtain ⟨before, after, rfl, hbne, hane, hb, ha⟩ := hg.split
  obtain ⟨c, after, rfl⟩ := List.exists_cons_of_ne_nil hane
  have hc := ha c (List.mem_cons_self ..)
  have hword : Leads word (before ++ (word ++ " ")) :=
    ⟨_, ⟨⟨before, " ", rfl, hbne, by decide, hb, blank_space⟩⟩, List.prefix_rfl⟩
  have he' : (before ++ word) ++ (c :: (after ++ rest)) = d ++ (" " ++ y) := by simpa using he
  rcases List.append_eq_append_iff.mp he' with ⟨z, rfl, hz⟩ | ⟨z, hd, hz⟩
  · -- the word ends in `d`: the blank after it is there, or is the space
    cases z with
    | nil => simpa using hword
    | cons c' z =>
      obtain ⟨rfl, _⟩ := List.cons.inj hz
      refine Leads.append ⟨before ++ (word ++ [c]), ⟨⟨before, [c], rfl, hbne, by simp, hb, ?_⟩⟩, ?_⟩ _
      · simpa using hc
      · exact ⟨z, by simp⟩
  · cases z with
    | nil =>
      rw [List.append_nil] at hd
      rw [← hd]
      simpa using hword
    | cons c' z =>
      -- the word would hold the space, or the blanks before it the end of `d`
      have hspace : c' = ' ' := (List.cons.inj hz).1.symm
      rcases List.append_eq_append_iff.mp hd with ⟨w, rfl, hw'⟩ | ⟨w, rfl, _⟩
      · have := hw.no_blank c' (by rw [hw']; simp)
        rw [hspace] at this
        exact absurd this (by decide)
      · have hmem := List.getLast_mem hne
        have := hlast _ (List.getLast?_eq_some_getLast hne)
        rw [hb _ (List.mem_append_left w hmem)] at this
        exact Bool.noConfusion this

end Cuesheet.Instruction
