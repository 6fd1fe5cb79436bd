import Cuesheet.Proofs.Instruction.Around
import Cuesheet.Proofs.Instruction.Split

/-!
A cut text, put together again.

The parts of a cut text are its stretches between the separators that cut it (`piecesFrom_eq`), and
with those separators between them they are the text (`interleave_piecesFrom`). A literal begins with a
quote and a separator holds none, so no cut goes through a literal, and each literal lies within one
stretch (`exists_stretch`).
-/

namespace Cuesheet

/-- The piece of a text that a span marks out. -/
def Span.slice (s : Span) (t : Text) : Text := (t.take s.stop).drop s.start

/-- Another span lies within this one. -/
def Span.Holds (s l : Span) : Prop := s.start ≤ l.start ∧ l.stop ≤ s.stop

namespace Instruction

/-- What is left of the positions from `i` up to `stop` between the given spans. -/
def stretchesFrom (stop : Nat) : (i : Nat) → List Span → List Span
  | i, [] => [⟨i, stop⟩]
  | i, s :: spans => ⟨i, s.start⟩ :: stretchesFrom stop s.stop spans

/-- The stretches of a text between the separators that cut it. -/
def stretches (word t : Text) : List Span := stretchesFrom t.length 0 (openSeparators word t)

/-- Parts with a gap after each but the last. -/
def interleave : (parts gaps : List Text) → Text
  | p :: parts, gap :: gaps => p ++ (gap ++ interleave parts gaps)
  | parts, _ => parts.flatten

variable {word t : Text}

/-! ### Parts and gaps -/

theorem length_stretchesFrom (stop i : Nat) (spans : List Span) :
    (stretchesFrom stop i spans).length = spans.length + 1 := by
  induction spans generalizing i with
  | nil => rfl
  | cons s spans ih => rw [stretchesFrom, List.length_cons, ih, List.length_cons]

/-- The pieces between spans are what the stretches between them mark out. -/
theorem piecesFrom_eq (t : Text) (i : Nat) (spans : List Span) :
    piecesFrom t i spans = (stretchesFrom t.length i spans).map (·.slice t) := by
  induction spans generalizing i with
  | nil => rw [piecesFrom, stretchesFrom, List.map_singleton, Span.slice, List.take_length]
  | cons s spans ih => rw [piecesFrom, stretchesFrom, List.map_cons, ih, Span.slice]

theorem splitAt?_eq_some_iff {parts : List Text} :
    splitAt? word t = some parts ↔
      openSeparators word t ≠ [] ∧ parts = (stretches word t).map (·.slice t) := by
  rw [splitAt?, stretches, ← piecesFrom_eq]
  split
  next h => simp [h]
  next h =>
    constructor
    · exact fun hparts => ⟨h, (Option.some.inj hparts).symm⟩
    · rintro ⟨-, rfl⟩
      rfl

theorem slice_append_drop (t : Text) {a b : Nat} (h : a ≤ b) :
    (t.take b).drop a ++ t.drop b = t.drop a := by
  conv => rhs; rw [← List.take_append_drop b t]
  by_cases hb : b ≤ t.length
  · rw [List.drop_append_of_le_length (by rw [List.length_take]; omega)]
  · have hnil : t.drop b = [] := List.drop_of_length_le (by omega)
    rw [hnil, List.append_nil, List.append_nil]

/-- With the gaps between them the pieces are the text. -/
theorem interleave_piecesFrom {i : Nat} {spans : List Span}
    (hord : spans.Pairwise fun s s' => s.stop ≤ s'.start)
    (hin : ∀ s ∈ spans, i ≤ s.start ∧ s.start < s.stop) :
    interleave (piecesFrom t i spans) (spans.map (·.slice t)) = t.drop i := by
  induction spans generalizing i with
  | nil => exact List.append_nil (t.drop i)
  | cons s spans ih =>
    obtain ⟨hfirst, hord⟩ := List.pairwise_cons.mp hord
    obtain ⟨⟨hi, hlt⟩, hin⟩ := List.forall_mem_cons.mp hin
    have hrest := ih hord fun s' hs' => ⟨hfirst s' hs', (hin s' hs').2⟩
    rw [piecesFrom, List.map_cons, interleave, hrest, Span.slice,
      slice_append_drop t (Nat.le_of_lt hlt), slice_append_drop t hi]

/-! ### Literals and cuts -/

/-- A literal begins with a quote of the text, and does not end there. -/
theorem exists_first_quote {l : Span} (h : l ∈ literals t) :
    ∃ q, t[l.start]? = some q ∧ isQuote q = true ∧ l.stop ≤ t.length := by
  rcases stands_of_mem_literalsFrom (s := .outside true) trivial h with
    ⟨_, _, _, hstate, _⟩ | ⟨a, q, x, b, rfl, hq, -, -, rfl⟩
  · cases hstate
  · refine ⟨q, by simp [quoted], hq, ?_⟩
    simp only [Nat.zero_add, List.length_append]
    omega

/-- No cut goes through a literal. -/
theorem apart_of_mem (hw : Joint word) {l s : Span} (hl : l ∈ literals t)
    (hs : s ∈ openSeparators word t) : l.stop ≤ s.start ∨ s.stop ≤ l.start := by
  obtain ⟨hsep, hopen⟩ := mem_openSeparators.mp hs
  obtain ⟨j, -, hj, -, hstop⟩ := mem_separatorsFrom hsep
  rw [Nat.zero_add] at hj
  by_contra hthrough
  have hstart : s.start < l.start := by
    by_contra hle
    exact hopen ⟨l, hl, by omega, by omega⟩
  -- so the literal would open within the separator
  obtain ⟨q, hget, hq, -⟩ := exists_first_quote hl
  have hwithin : l.start - j < separatorLength word (t.drop j) := by omega
  have hsame : (t.drop j)[l.start - j]? = some q := by
    rw [List.getElem?_drop, ← hget]
    congr 1
    omega
  rw [no_quote_of_lt_separatorLength hw hwithin hsame] at hq
  exact Bool.noConfusion hq

/-- What no span goes through lies within one stretch between them. -/
theorem exists_stretch {stop i : Nat} {spans : List Span} {l : Span} (hi : i ≤ l.start)
    (hstop : l.stop ≤ stop) (h : ∀ s ∈ spans, l.stop ≤ s.start ∨ s.stop ≤ l.start) :
    ∃ s ∈ stretchesFrom stop i spans, s.Holds l := by
  induction spans generalizing i with
  | nil => exact ⟨⟨i, stop⟩, List.mem_cons_self .., hi, hstop⟩
  | cons s spans ih =>
    obtain ⟨hs, hspans⟩ := List.forall_mem_cons.mp h
    rcases hs with hbefore | hafter
    · exact ⟨⟨i, s.start⟩, List.mem_cons_self .., hi, hbefore⟩
    · obtain ⟨s', hs', hholds⟩ := ih hafter hspans
      exact ⟨s', List.mem_cons_of_mem _ hs', hholds⟩

/-! ### Cutting -/

theorem joint_of_eq (h : word = "and" ∨ word = "or") : Joint word := by
  rcases h with rfl | rfl
  · exact joint_and
  · exact joint_or

/-- **Cutting is complete and spares literals.** A text that is cut at a separating word comes into two
parts at least, the stretches between the separators that cut it; with these between them the parts
are the text, each literal lies within one of the stretches, and no part is cut again. In a text that
is left whole every separator starts within a literal. -/
theorem splitAt?_spares_literals (hw : word = "and" ∨ word = "or") (t : Text) :
    (∀ parts, splitAt? word t = some parts →
      2 ≤ parts.length ∧
      parts = (stretches word t).map (·.slice t) ∧
      parts.length = (openSeparators word t).length + 1 ∧
      interleave parts ((openSeparators word t).map (·.slice t)) = t ∧
      (∀ l ∈ literals t, ∃ s ∈ stretches word t, s.Holds l) ∧
      ∀ p ∈ parts, splitAt? word p = none) ∧
    (splitAt? word t = none → ∀ s ∈ separators word t, Covered t s.start) := by
  have hjoint := joint_of_eq hw
  refine ⟨fun parts hparts => ?_, fun hnone s hs => ?_⟩
  · obtain ⟨hcut, hslices⟩ := splitAt?_eq_some_iff.mp hparts
    have hlength : parts.length = (openSeparators word t).length + 1 := by
      rw [hslices, List.length_map, stretches, length_stretchesFrom]
    have hord : (openSeparators word t).Pairwise fun s s' => s.stop ≤ s'.start :=
      (separatorsFrom_pairwise word 0 0 t).filter _
    have hin : ∀ s ∈ openSeparators word t, 0 ≤ s.start ∧ s.start < s.stop := fun s hs =>
      ⟨Nat.zero_le _, (stop_le_length hjoint (mem_openSeparators.mp hs).1).1⟩
    refine ⟨?_, hslices, hlength, ?_, fun l hl => ?_, fun p hp => ?_⟩
    · have := List.length_pos_iff.mpr hcut
      omega
    · rw [hslices, stretches, ← piecesFrom_eq]
      exact interleave_piecesFrom hord hin
    · obtain ⟨_, _, _, hstop⟩ := exists_first_quote hl
      exact exists_stretch (Nat.zero_le _) hstop fun s hs => apart_of_mem hjoint hl hs
    · obtain ⟨u, v, hpart⟩ := part_of_mem_splitAt? hjoint hparts hp
      exact (splitAt?_eq_none_iff hjoint).mpr (hpart.uncut hjoint)
  · obtain ⟨j, -, hj, hlead, -⟩ := mem_separatorsFrom hs
    rw [Nat.zero_add] at hj
    exact hj ▸ (splitAt?_eq_none_iff hjoint).mp hnone j hlead

/-- A literal that holds the word, a doubled separator, and a quote that never closes. -/
theorem splitAt?_spares_literals_doubled :
    let t : Text := "x and and 'a and b' and \"y"
    let parts : List Text := ["x", "and 'a and b'", "\"y"]
    splitAt? "and" t = some parts ∧
      ∀ l ∈ literals t, ∃ s ∈ stretches "and" t, s.Holds l := by
  intro t parts
  have hparts : splitAt? "and" t = some parts := by decide +kernel
  obtain ⟨-, -, -, -, hliterals, -⟩ := (splitAt?_spares_literals (.inl rfl) t).1 _ hparts
  exact ⟨hparts, hliterals⟩

end Instruction

end Cuesheet
