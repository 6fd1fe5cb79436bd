import Mathlib.Data.List.TakeWhile
import Cuesheet.Text.Blank

/-!
Trimming.

A text is its trimmed self between two runs of blanks (`exists_trim`), and the texts that trimming
leaves alone are those that neither begin nor end with a blank (`trim_eq_self_iff`).
-/

namespace Cuesheet.Text

structure Trimmed (t : Text) : Prop where
  head : ∀ c ∈ t.head?, isBlank c = false
  last : ∀ c ∈ t.getLast?, isBlank c = false

theorem forall_of_any_eq_false {p : Char → Bool} {t : Text} (h : t.any p = false) :
    ∀ c ∈ t, p c = false := fun c hc => by simpa using List.any_eq_false.mp h c hc

/-- A run of characters ends where one follows that does not belong to it. -/
theorem takeWhile_append_of_head {p : Char → Bool} {a b : Text} (ha : ∀ c ∈ a, p c = true)
    (hb : ∀ c ∈ b.head?, p c = false) : (a ++ b).takeWhile p = a := by
  rw [List.takeWhile_append_of_pos ha]
  cases b with
  | nil => simp
  | cons c b => simp [hb c rfl]

theorem dropWhile_append_of_head {p : Char → Bool} {a b : Text} (ha : ∀ c ∈ a, p c = true)
    (hb : ∀ c ∈ b.head?, p c = false) : (a ++ b).dropWhile p = b := by
  have hwhole := List.takeWhile_append_dropWhile (p := p) (l := a ++ b)
  rw [takeWhile_append_of_head ha hb] at hwhole
  exact List.append_cancel_left hwhole

theorem exists_trimEnd (t : Text) : ∃ v, (∀ c ∈ v, isBlank c = true) ∧ t = trimEnd t ++ v := by
  induction t with
  | nil => exact ⟨[], by simp, rfl⟩
  | cons c t ih =>
    obtain ⟨v, hv, ht⟩ := ih
    rw [trimEnd]
    split
    next he =>
      rw [he, List.nil_append] at ht
      split
      · next hc => exact ⟨c :: t, by simpa [hc, ht] using hv, rfl⟩
      · exact ⟨v, hv, by rw [ht]; rfl⟩
    next => exact ⟨v, hv, congrArg (c :: ·) ht⟩

theorem getLast?_trimEnd (t : Text) : ∀ c ∈ (trimEnd t).getLast?, isBlank c = false := by
  induction t with
  | nil => simp [trimEnd]
  | cons c t ih =>
    rw [trimEnd]
    split
    next =>
      split
      · simp
      · next hc => simpa using hc
    next rest he =>
      obtain ⟨d, rest, hrest⟩ := List.exists_cons_of_ne_nil (l := trimEnd t) (by simpa using he)
      rw [hrest] at ih ⊢
      simpa [List.getLast?_cons] using ih

theorem trimEnd_of_last {t : Text} (h : ∀ c ∈ t.getLast?, isBlank c = false) : trimEnd t = t := by
  induction t with
  | nil => rfl
  | cons c t ih =>
    cases t with
    | nil =>
      have hc : isBlank c = false := h c rfl
      simp [trimEnd, hc]
    | cons d t =>
      rw [trimEnd, ih (by simpa [List.getLast?_cons] using h)]

theorem exists_trimStart (t : Text) :
    ∃ u, (∀ c ∈ u, isBlank c = true) ∧ t = u ++ trimStart t :=
  ⟨t.takeWhile isBlank, fun _ hc => List.mem_takeWhile_imp hc, List.takeWhile_append_dropWhile.symm⟩

theorem head?_trimStart (t : Text) : ∀ c ∈ (trimStart t).head?, isBlank c = false := by
  intro c hc
  have := List.head?_dropWhile_not isBlank t
  rw [trimStart, Option.mem_def] at hc
  rwa [hc] at this

theorem trimStart_of_head {t : Text} (h : ∀ c ∈ t.head?, isBlank c = false) : trimStart t = t := by
  cases t with
  | nil => rfl
  | cons c t =>
    have hc : isBlank c = false := h c rfl
    simp [trimStart, hc]

/-- A text is its trimmed self between blanks. -/
theorem exists_trim (t : Text) :
    ∃ u v, (∀ c ∈ u, isBlank c = true) ∧ (∀ c ∈ v, isBlank c = true) ∧ t = u ++ (trim t ++ v) := by
  obtain ⟨u, hu, ht⟩ := exists_trimStart t
  obtain ⟨v, hv, hs⟩ := exists_trimEnd (trimStart t)
  exact ⟨u, v, hu, hv, by rw [trim, ← hs, ← ht]⟩

/-- Trailing blanks are the leading ones of the text read backwards. -/
theorem trimEnd_eq_reverse (t : Text) : trimEnd t = (trimStart t.reverse).reverse := by
  obtain ⟨v, hv, ht⟩ := exists_trimEnd t
  have hhead : ∀ c ∈ (trimEnd t).reverse.head?, isBlank c = false := by
    simpa [List.head?_reverse] using getLast?_trimEnd t
  have hreverse : t.reverse = v.reverse ++ (trimEnd t).reverse := by
    rw [← List.reverse_append, ← ht]
  rw [hreverse, trimStart, dropWhile_append_of_head (by simpa using hv) hhead, List.reverse_reverse]

/-- Taking off trailing blanks changes no beginning that is not a blank. -/
theorem head?_trim (t : Text) : (trim t).head? = (trimStart t).head? := by
  obtain ⟨v, hv, ht⟩ := exists_trimEnd (trimStart t)
  cases htrim : trimEnd (trimStart t) with
  | cons c u =>
    rw [htrim] at ht
    rw [trim, htrim, ht]
    rfl
  | nil =>
    rw [htrim, List.nil_append] at ht
    have hhead := head?_trimStart t
    rw [trim, htrim, ht]
    rw [ht] at hhead
    cases v with
    | nil => rfl
    | cons c v => exact absurd ((hv c (List.mem_cons_self ..)).symm.trans (hhead c rfl)) (by decide)

theorem trimmed_trim (t : Text) : Trimmed (trim t) := by
  refine ⟨?_, getLast?_trimEnd _⟩
  intro c hc
  obtain ⟨v, _, hs⟩ := exists_trimEnd (trimStart t)
  apply head?_trimStart t c
  rw [trim, Option.mem_def] at hc
  rw [hs, Option.mem_def, List.head?_append, hc]
  rfl

theorem trim_of_trimmed {t : Text} (h : Trimmed t) : trim t = t := by
  rw [trim, trimStart_of_head h.head, trimEnd_of_last h.last]

/-- Trimming leaves alone exactly the texts without outer blanks. -/
theorem trim_eq_self_iff {t : Text} : trim t = t ↔ Trimmed t :=
  ⟨fun h => h ▸ trimmed_trim t, trim_of_trimmed⟩

theorem trim_isInfix (t : Text) : trim t <:+: t := by
  obtain ⟨u, v, _, _, ht⟩ := exists_trim t
  exact ⟨u, v, by rw [List.append_assoc, ← ht]⟩

/-- Nothing is left of a text exactly if it holds blanks only. -/
theorem trim_eq_nil_iff {t : Text} : trim t = [] ↔ ∀ c ∈ t, isBlank c = true := by
  constructor
  · intro h c hc
    obtain ⟨u, v, hu, hv, ht⟩ := exists_trim t
    rw [h, List.nil_append] at ht
    rw [ht] at hc
    exact (List.mem_append.mp hc).elim (hu c) (hv c)
  · intro h
    by_contra hne
    have hhead := (trimmed_trim t).head _ (List.head?_eq_some_head hne)
    rw [h _ ((trim_isInfix t).mem (List.head_mem hne))] at hhead
    exact Bool.noConfusion hhead

/-- What ends a text without outer blanks holds more than blanks. -/
theorem trim_ne_nil_of_suffix {t s : Text} (ht : Trimmed t) (hs : s <:+ t) (hne : s ≠ []) :
    trim s ≠ [] := by
  intro h
  have hlast : s.getLast hne ∈ t.getLast? := by
    obtain ⟨p, rfl⟩ := hs
    simp [List.getLast?_eq_some_getLast hne]
  have hblank := ht.last _ hlast
  rw [trim_eq_nil_iff.mp h _ (List.getLast_mem hne)] at hblank
  exact Bool.noConfusion hblank

end Cuesheet.Text
