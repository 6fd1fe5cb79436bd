import Mathlib.Data.List.Forall2
import Cuesheet.Proofs.Instruction.Around
import Cuesheet.Proofs.Instruction.Join

/-!
Texts that differ in one literal.

Two texts are twins if they are the same, or differ in the contents of one literal that keeps to itself
in both. The separators that cut a text stand before the literal or after it, whatever it holds
(`openSeparators_around`), so the parts of twins are twins (`splitAt?_twins`).
-/

namespace Cuesheet.Instruction

/-- Contents of a literal: a text without quotes. -/
structure Plain (x : Text) : Prop where
  ne_nil : x ≠ []
  no_quote : ∀ c ∈ x, isQuote c = false

/-- The texts are the same, or differ in the contents of one literal. -/
inductive Twins (q : Char) (x y : Text) : Text → Text → Prop where
  | same (t : Text) : Twins q x y t t
  | around {a b : Text} : Around q x a b → Around q y a b →
      Twins q x y (a ++ (quoted q x ++ b)) (a ++ (quoted q y ++ b))

variable {q : Char} {x y a b u v s t word : Text}

theorem quoted_append (q : Char) (x b : Text) : quoted q x ++ b = q :: (x ++ q :: b) := by
  simp [quoted]

theorem length_quoted (q : Char) (x : Text) : (quoted q x).length = x.length + 2 := by
  simp [quoted]

theorem Plain.not_mem (hq : isQuote q = true) (hx : Plain x) : q ∉ x := fun h => by
  rw [hx.no_quote q h] at hq
  exact Bool.noConfusion hq

/-! ### Separators -/

theorem separatorLength_le (hw : Joint word) (t : Text) : separatorLength word t ≤ t.length := by
  by_cases h : separatorLength word t = 0
  · omega
  · obtain ⟨gap, rest, hg, rfl, hrest⟩ := (leads_of_separatorLength h).exists_append
    rw [separatorLength_append hw hg hrest, List.length_append]
    omega

/-- No separator reaches a quote. -/
theorem separatorLength_quote (hw : Joint word) (hq : isQuote q = true) (v u : Text) :
    separatorLength word (v ++ q :: u) = separatorLength word v := by
  have hblank := isBlank_false_of_isQuote hq
  have hword : q ∉ word := fun h => by
    rw [hw.no_quote q h] at hq
    exact Bool.noConfusion hq
  have hcount : ∀ t, countWhile Text.isBlank (t ++ q :: u) = countWhile Text.isBlank t :=
    fun t => by rw [countWhile, Text.takeWhile_append_cons hblank, ← countWhile]
  have hle : countWhile Text.isBlank v ≤ v.length := (List.takeWhile_prefix _).length_le
  simp only [separatorLength, hcount, List.drop_append_of_le_length hle,
    Text.after?_append_cons hword]
  cases Text.after? word (v.drop (countWhile Text.isBlank v)) with
  | none => rfl
  | some rest => simp only [Option.map_some, hcount]

theorem separatorsFrom_quote (hw : Joint word) (hq : isQuote q = true) {i skip : Nat}
    (hskip : skip ≤ v.length) : separatorsFrom word i skip (v ++ q :: u) =
      separatorsFrom word i skip v ++ separatorsFrom word (i + v.length + 1) 0 u := by
  induction v generalizing i skip with
  | nil =>
    obtain rfl := Nat.le_zero.mp hskip
    have hnone : separatorLength word (q :: u) = 0 := by
      have hlength := separatorLength_quote hw hq [] u
      have hnil := separatorLength_le hw []
      rw [List.length_nil] at hnil
      rw [List.nil_append] at hlength
      omega
    simp only [List.nil_append, separatorsFrom, hnone, List.length_nil, Nat.add_zero]
  | cons c v ih =>
    rw [List.length_cons] at hskip ⊢
    have hlength : i + (v.length + 1) + 1 = i + 1 + v.length + 1 := by omega
    rw [List.cons_append, hlength]
    cases skip with
    | succ skip => exact ih (Nat.le_of_succ_le_succ hskip)
    | zero =>
      have hsame := separatorLength_quote hw hq (c :: v) u
      have hle := separatorLength_le hw (c :: v)
      rw [List.cons_append] at hsame
      rw [separatorsFrom, separatorsFrom, hsame]
      split
      · exact ih (Nat.zero_le _)
      next n hn =>
        rw [hn, List.length_cons] at hle
        rw [ih (by omega), List.cons_append]

theorem separators_around (hw : Joint word) (hq : isQuote q = true) (a x b : Text) :
    separators word (a ++ (quoted q x ++ b)) = separators word a ++
      (separatorsFrom word (a.length + 1) 0 x ++
        (separators word b).map (Span.shift (a.length + (quoted q x).length))) := by
  have hlength : a.length + 1 + x.length + 1 = a.length + (quoted q x).length + 0 := by
    rw [length_quoted]
    omega
  rw [quoted_append, separators, separatorsFrom_quote hw hq (Nat.zero_le _), Nat.zero_add,
    separatorsFrom_quote hw hq (Nat.zero_le _), hlength, separatorsFrom_shift word _ 0 0 b]
  rfl

/-- The position is in a literal of what follows a literal. -/
def CoveredAfter (b : Text) (j : Nat) : Prop :=
  ∃ l ∈ literalsFrom (.outside false) 0 b, l.start ≤ j ∧ j < l.stop

theorem any_covers_after_iff {j : Nat} :
    (literalsFrom (.outside false) 0 b).any (·.covers j) = true ↔ CoveredAfter b j := by
  simp [CoveredAfter, Span.covers]

/-- The literals of a text cover what those before the literal do, the literal, and what those after
it do. -/
theorem covered_around (hq : isQuote q = true) (hx : q ∉ x) (ha : Opens a)
    (hb : closesBefore b = true) {j : Nat} : Covered (a ++ (quoted q x ++ b)) j ↔
      Covered a j ∨ (a.length ≤ j ∧ j < a.length + (quoted q x).length) ∨
        ∃ k, j = a.length + (quoted q x).length + k ∧ CoveredAfter b k := by
  have hlater : literalsFrom (.outside false) (a.length + (quoted q x).length) b =
      (literalsFrom (.outside false) 0 b).map (Span.shift (a.length + (quoted q x).length)) :=
    literalsFrom_shift (s := .outside false) (i := 0)
  simp only [Covered, CoveredAfter, literals_around hq hx ha hb, hlater, List.mem_append,
    List.mem_cons, List.mem_map]
  constructor
  · rintro ⟨l, hl | rfl | ⟨l, hl, rfl⟩, hstart, hstop⟩
    · exact .inl ⟨l, hl, hstart, hstop⟩
    · exact .inr (.inl ⟨hstart, hstop⟩)
    · simp only [Span.shift] at hstart hstop
      exact .inr (.inr ⟨j - (a.length + (quoted q x).length), by omega, l, hl, by omega, by omega⟩)
  · rintro (⟨l, hl, hbounds⟩ | hbounds | ⟨k, rfl, l, hl, hbounds⟩)
    · exact ⟨l, .inl hl, hbounds⟩
    · exact ⟨_, .inr (.inl rfl), hbounds⟩
    · refine ⟨l.shift _, .inr (.inr ⟨l, hl, rfl⟩), ?_, ?_⟩ <;> simp only [Span.shift] <;> omega

/-- The separators that cut what follows a literal. -/
def laterSeparators (word b : Text) : List Span :=
  (separators word b).filter fun s => !(literalsFrom (.outside false) 0 b).any (·.covers s.start)

/-- What cuts a text cuts it before the literal or after it. -/
theorem openSeparators_around (hw : Joint word) (hq : isQuote q = true) (hx : Plain x)
    (ha : Opens a) (hb : closesBefore b = true) :
    openSeparators word (a ++ (quoted q x ++ b)) = openSeparators word a ++
      (laterSeparators word b).map (Span.shift (a.length + (quoted q x).length)) := by
  have hcovered := fun j => covered_around (j := j) hq (hx.not_mem hq) ha hb
  have hbefore : ∀ s ∈ separators word a,
      (literals (a ++ (quoted q x ++ b))).any (·.covers s.start) =
        (literals a).any (·.covers s.start) := by
    intro s hs
    have hlt := stop_le_length hw hs
    rw [Bool.eq_iff_iff, any_covers_iff, any_covers_iff, hcovered]
    refine or_iff_left ?_
    rintro (hin | ⟨k, hk, -⟩) <;> omega
  have hinside : ∀ s ∈ separatorsFrom word (a.length + 1) 0 x,
      (literals (a ++ (quoted q x ++ b))).any (·.covers s.start) = true := by
    intro s hs
    obtain ⟨j, -, hstart, hlead, -⟩ := mem_separatorsFrom hs
    have hj := (leads_within [] [] hlead).1
    rw [any_covers_iff, hcovered, length_quoted]
    exact .inr (.inl ⟨by omega, by omega⟩)
  have hafter : ∀ s : Span, (literals (a ++ (quoted q x ++ b))).any
      (·.covers (s.shift (a.length + (quoted q x).length)).start) =
        (literalsFrom (.outside false) 0 b).any (·.covers s.start) := by
    intro s
    rw [Bool.eq_iff_iff, any_covers_iff, any_covers_after_iff, hcovered, Span.shift]
    dsimp only
    constructor
    · rintro (hin | hin | ⟨k, hk, hin⟩)
      · exact absurd hin (not_covered_of_length_le (by omega))
      · omega
      · rwa [show s.start = k by omega]
    · exact fun hin => .inr (.inr ⟨s.start, rfl, hin⟩)
  rw [openSeparators, separators_around hw hq, List.filter_append, List.filter_append]
  congr 1
  · exact List.filter_congr fun s hs => by rw [hbefore s hs]
  · rw [List.filter_eq_nil_iff.mpr fun s hs => by simp [hinside s hs], List.nil_append,
      List.filter_map, laterSeparators]
    exact congrArg _ (List.filter_congr fun s _ => by rw [Function.comp_apply, hafter])

/-! ### Parts -/

/-- The pieces of a text around a literal: only the one that holds the literal depends on it. -/
theorem exists_piecesFrom_around {before : List Span} (after : List Span) {i : Nat} (hi : i ≤ a.length)
    (hbefore : ∀ s ∈ before, s.start ≤ a.length ∧ s.stop ≤ a.length) :
    ∃ earlier later j k, (j = i ∨ ∃ s ∈ before, s.stop = j) ∧ ∀ m : Text,
      piecesFrom (a ++ (m ++ b)) i (before ++ after.map (Span.shift (a.length + m.length))) =
        earlier ++ (a.drop j ++ (m ++ b.take k)) :: later := by
  induction before generalizing i with
  | nil =>
    cases after with
    | nil =>
      refine ⟨[], [], i, b.length, .inl rfl, fun m => ?_⟩
      simp only [List.map_nil, List.append_nil, piecesFrom, List.nil_append, List.take_length,
        List.drop_append_of_le_length hi]
    | cons s after =>
      refine ⟨[], piecesFrom b s.stop after, i, s.start, .inl rfl, fun m => ?_⟩
      have hpieces := piecesFrom_shift (a ++ m) b s.stop after
      rw [List.length_append, List.append_assoc] at hpieces
      have htake : (a ++ (m ++ b)).take (a.length + m.length + s.start) = a ++ (m ++ b.take s.start) := by
        rw [← List.append_assoc, ← List.length_append, List.take_length_add_append, List.append_assoc]
      simp only [List.nil_append, List.map_cons, piecesFrom, Span.shift, htake,
        List.drop_append_of_le_length hi]
      exact congrArg _ hpieces
  | cons s before ih =>
    obtain ⟨⟨hstart, hstop⟩, hrest⟩ := List.forall_mem_cons.mp hbefore
    obtain ⟨earlier, later, j, k, hj, hpieces⟩ := ih hstop hrest
    refine ⟨(a.take s.start).drop i :: earlier, later, j, k, ?_, fun m => ?_⟩
    · rcases hj with rfl | ⟨s', hs', rfl⟩
      · exact .inr ⟨s, List.mem_cons_self .., rfl⟩
      · exact .inr ⟨s', List.mem_cons_of_mem s hs', rfl⟩
    · rw [List.cons_append, piecesFrom, hpieces, List.take_append_of_le_length hstart]
      rfl

/-- A separator is a link. -/
theorem Gap.link (hw : Joint word) (hlead : word ∈ clauseWords) {gap : Text} (hg : Gap word gap) :
    Link gap := by
  obtain ⟨c, rest, rfl, hc⟩ := hg.head
  obtain ⟨d, hd, hblank⟩ := hg.last
  obtain ⟨before, after, he, hbne, hane, hbefore, hafter⟩ := hg.split
  have hrest : rest ≠ [] := by
    rintro rfl
    have hlength := congrArg List.length he
    have hbefore := List.length_pos_iff.mpr hbne
    have hafter := List.length_pos_iff.mpr hane
    have hword := List.length_pos_iff.mpr hw.ne_nil
    simp only [List.length_append, List.length_singleton] at hlength
    omega
  refine ⟨⟨c, rest, rfl, .inl hc, fun e he => hg.no_quote hw e (List.mem_cons_of_mem c he), d, ?_,
    hblank⟩, before, word, after, he, hlead,
    ⟨before.getLast hbne, List.getLast?_eq_some_getLast hbne, hbefore _ (List.getLast_mem hbne)⟩, hafter⟩
  rw [Option.mem_def] at hd ⊢
  rwa [List.getLast?_cons_of_ne_nil hrest] at hd

/-- Behind a separator that cuts the text before a literal a clause can begin. -/
theorem starts_of_openSeparator (hw : Joint word) (hlead : word ∈ clauseWords) (ha : Opens a) {s : Span}
    (hs : s ∈ openSeparators word a) : Starts (a.take s.stop) := by
  obtain ⟨hsep, hcov⟩ := mem_openSeparators.mp hs
  obtain ⟨gap, rest, hg, hdrop, hstop⟩ := exists_gap_of_mem_separators hw hsep
  have hlt := stop_le_length hw hsep
  have hlength : (a.take s.start).length = s.start := by
    rw [List.length_take]
    omega
  have hwhole : a = a.take s.start ++ (gap ++ rest) := by
    rw [← hdrop, List.take_append_drop]
  have htake : a.take s.stop = a.take s.start ++ gap := by
    rw [hstop, List.take_add, hdrop, List.take_left]
  rw [htake]
  rw [hwhole] at ha
  refine (hg.link hw hlead).starts ha ?_
  rw [← hwhole, hlength]
  rintro ⟨l, hl, hstart, hin⟩
  exact hcov ⟨l, hl, hstart, by omega⟩

theorem rel_refl {α : Type} {R : α → α → Prop} (hR : ∀ c, R c c) (o : Option α) : Option.Rel R o o := by
  cases o with
  | none => exact .none
  | some c => exact .some (hR c)

theorem rel_of_map {α β : Type} {R : β → β → Prop} {g : α → β} {o o' : Option α}
    (h : Option.Rel R (o.map g) (o'.map g)) : Option.Rel (fun c d => R (g c) (g d)) o o' := by
  cases o <;> cases o' <;> cases h
  · exact .none
  · exact .some ‹_›

/-- **The parts of twins are twins.** -/
theorem splitAt?_twins (hw : Joint word) (hlead : word ∈ clauseWords) (hq : isQuote q = true)
    (hx : Plain x) (hy : Plain y) (h : Around q x a b) (h' : Around q y a b) :
    Option.Rel (List.Forall₂ (Twins q x y)) (splitAt? word (a ++ (quoted q x ++ b)))
      (splitAt? word (a ++ (quoted q y ++ b))) := by
  have hspans := openSeparators_around hw hq hx h.opens h.closes
  have hspans' := openSeparators_around hw hq hy h'.opens h'.closes
  have hbefore : ∀ s ∈ openSeparators word a, s.start ≤ a.length ∧ s.stop ≤ a.length := by
    intro s hs
    have hlt := stop_le_length hw (mem_openSeparators.mp hs).1
    omega
  obtain ⟨earlier, later, j, k, hj, hpieces⟩ :=
    exists_piecesFrom_around (laterSeparators word b) (Nat.zero_le a.length) hbefore
  have hstarts : Starts (a.take j) := by
    rcases hj with rfl | ⟨s, hs, rfl⟩
    · exact starts_of_blank (by simp)
    · exact starts_of_openSeparator hw hlead h.opens hs
  rw [← List.take_append_drop j a, ← List.take_append_drop k b] at h h'
  have htwins : List.Forall₂ (Twins q x y)
      (earlier ++ (a.drop j ++ (quoted q x ++ b.take k)) :: later)
      (earlier ++ (a.drop j ++ (quoted q y ++ b.take k)) :: later) :=
    List.rel_append (List.forall₂_same.mpr fun t _ => .same t)
      (.cons (.around (h.piece hstarts) (h'.piece hstarts))
        (List.forall₂_same.mpr fun t _ => .same t))
  have hsplit : ∀ t, splitAt? word t = if openSeparators word t = [] then none
      else some (piecesFrom t 0 (openSeparators word t)) := by
    intro t
    rw [splitAt?]
    cases openSeparators word t <;> rfl
  rw [hsplit, hsplit, hspans, hspans', hpieces, hpieces]
  simp only [List.append_eq_nil_iff, List.map_eq_nil_iff]
  split
  · exact .none
  · exact .some htwins

end Cuesheet.Instruction
