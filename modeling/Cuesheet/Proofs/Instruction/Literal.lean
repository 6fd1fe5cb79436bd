import Cuesheet.Instruction.Literal

/-!
The scan for literals, piece by piece.

`scanEnd` is the state in which the scan leaves a text. A text can be scanned in pieces wherever the
second piece keeps no quote of the first from closing (`literalsFrom_append`), and a scan that enters
a piece outside a literal finds there what a scan of the piece alone finds (`literalsFrom_outside`).
A literal ends with a quote, and a quote that has opened makes the next literal, if there is one.
-/

namespace Cuesheet

def Span.shift (n : Nat) (s : Span) : Span := ⟨n + s.start, n + s.stop⟩

namespace Instruction

/-! ### States of the scan -/

/-- The quote that has opened, if one has, is a quote. -/
def QuoteState.Sound : QuoteState → Prop
  | .outside _ => True
  | .inside quote _ => isQuote quote = true

/-- The state with positions moved right. -/
def QuoteState.shift (n : Nat) : QuoteState → QuoteState
  | .outside canOpen => .outside canOpen
  | .inside quote start => .inside quote (n + start)

/-- The state after a blank: outside a literal a quote may open now. -/
def QuoteState.afterBlank : QuoteState → QuoteState
  | .outside _ => .outside true
  | .inside quote start => .inside quote start

/-- The state in which the scan leaves a text at position `i`, when it enters it in the given
state. -/
def scanEnd : QuoteState → (i : Nat) → Text → QuoteState
  | s, _, [] => s
  | .inside quote start, i, c :: t =>
    if c = quote && closesBefore t then scanEnd (.outside false) (i + 1) t
    else scanEnd (.inside quote start) (i + 1) t
  | .outside canOpen, i, c :: t =>
    if canOpen && isQuote c then scanEnd (.inside c i) (i + 1) t
    else scanEnd (.outside (Text.isBlank c)) (i + 1) t

def EndsOutside (t : Text) : Prop := ∃ canOpen, scanEnd (.outside true) 0 t = .outside canOpen

instance (t : Text) : Decidable (EndsOutside t) :=
  match h : scanEnd (.outside true) 0 t with
  | .outside canOpen => isTrue ⟨canOpen, h⟩
  | .inside .. => isFalse fun ⟨_, he⟩ => QuoteState.noConfusion (h.symm.trans he)

theorem isQuote_false_of_isBlank {c : Char} (h : Text.isBlank c = true) : isQuote c = false := by
  simp only [isQuote, Bool.or_eq_false_iff, decide_eq_false_iff_not]
  constructor
  · rintro rfl
    exact absurd h (by decide)
  · rintro rfl
    exact absurd h (by decide)

theorem isBlank_false_of_isQuote {c : Char} (h : isQuote c = true) : Text.isBlank c = false := by
  cases hb : Text.isBlank c
  · rfl
  · exact absurd h (by simp [isQuote_false_of_isBlank hb])

theorem scanEnd_sound {s : QuoteState} {i : Nat} {t : Text} (hs : s.Sound) :
    (scanEnd s i t).Sound := by
  induction t generalizing s i with
  | nil => exact hs
  | cons c t ih =>
    cases s with
    | inside quote start =>
      rw [scanEnd]
      split
      · exact ih trivial
      · exact ih hs
    | outside canOpen =>
      rw [scanEnd]
      split
      next h => exact ih (Bool.and_eq_true_iff.mp h).2
      next => exact ih trivial

/-- A quote that has opened opened before the scan or in the text. -/
theorem scanEnd_inside {s : QuoteState} {i : Nat} {t : Text} {quote : Char} {start : Nat}
    (h : scanEnd s i t = .inside quote start) :
    s = .inside quote start ∨ i ≤ start ∧ start < i + t.length := by
  induction t generalizing s i with
  | nil => exact .inl h
  | cons c t ih =>
    rw [List.length_cons]
    cases s with
    | inside q k =>
      rw [scanEnd] at h
      split at h
      · rcases ih h with h | h
        · exact QuoteState.noConfusion h
        · exact .inr (by omega)
      · rcases ih h with h | h
        · exact .inl h
        · exact .inr (by omega)
    | outside canOpen =>
      rw [scanEnd] at h
      split at h
      · rcases ih h with h | h
        · obtain ⟨_, rfl⟩ := QuoteState.inside.inj h
          exact .inr (by omega)
        · exact .inr (by omega)
      · rcases ih h with h | h
        · exact QuoteState.noConfusion h
        · exact .inr (by omega)

/-! ### Scanning in pieces -/

/-- The seam between two texts: what follows keeps no quote before it from closing. -/
def Seam (a b : Text) : Prop :=
  closesBefore b = true ∨ ∀ c ∈ a.getLast?, Text.isBlank c = true

theorem Seam.tail {c : Char} {a b : Text} (h : Seam (c :: a) b) : Seam a b := by
  rcases h with h | h
  · exact .inl h
  · cases a with
    | nil => exact .inr (by simp)
    | cons d a => exact .inr (by simpa [List.getLast?_cons] using h)

theorem closesBefore_of_head {t : Text} (h : ∀ c ∈ t.head?, Text.isBlank c = true) :
    closesBefore t = true := by
  cases t with
  | nil => rfl
  | cons c t => simp [closesBefore, h c rfl]

/-- A step inside a literal does not see past a seam. -/
theorem closes_append {c q : Char} {a b : Text} (h : Seam (c :: a) b) (hq : isQuote q = true) :
    (decide (c = q) && closesBefore (a ++ b)) = (decide (c = q) && closesBefore a) := by
  cases a with
  | cons d a => rfl
  | nil =>
    rcases h with h | h
    · rw [List.nil_append, h]
      rfl
    · have hc : Text.isBlank c = true := h c rfl
      have hne : c ≠ q := by
        rintro rfl
        rw [isBlank_false_of_isQuote hq] at hc
        exact Bool.noConfusion hc
      simp [hne]

/-- **A text is scanned in pieces at a seam.** -/
theorem literalsFrom_append {s : QuoteState} {i : Nat} {a b : Text} (hs : s.Sound)
    (h : Seam a b) :
    literalsFrom s i (a ++ b) =
      literalsFrom s i a ++ literalsFrom (scanEnd s i a) (i + a.length) b := by
  induction a generalizing s i with
  | nil => cases s <;> rfl
  | cons c a ih =>
    have hlen : i + (c :: a).length = i + 1 + a.length := by
      rw [List.length_cons]
      omega
    rw [hlen, List.cons_append]
    cases s with
    | inside q k =>
      simp only [literalsFrom, scanEnd, closes_append h hs]
      split
      · exact congrArg (_ :: ·) (ih (s := .outside false) trivial h.tail)
      · exact ih hs h.tail
    | outside canOpen =>
      simp only [literalsFrom, scanEnd]
      split
      next hq => exact ih (Bool.and_eq_true_iff.mp hq).2 h.tail
      next => exact ih trivial h.tail

theorem literals_append {a b : Text} (h : Seam a b) :
    literals (a ++ b) = literals a ++ literalsFrom (scanEnd (.outside true) 0 a) a.length b := by
  rw [literals, literalsFrom_append (s := .outside true) trivial h, Nat.zero_add]
  rfl

theorem scanEnd_append {s : QuoteState} {i : Nat} {a b : Text} (hs : s.Sound) (h : Seam a b) :
    scanEnd s i (a ++ b) = scanEnd (scanEnd s i a) (i + a.length) b := by
  induction a generalizing s i with
  | nil => cases s <;> rfl
  | cons c a ih =>
    have hlen : i + (c :: a).length = i + 1 + a.length := by
      rw [List.length_cons]
      omega
    rw [hlen, List.cons_append]
    cases s with
    | inside q k =>
      simp only [scanEnd, closes_append h hs]
      split
      · exact ih (s := .outside false) trivial h.tail
      · exact ih hs h.tail
    | outside canOpen =>
      simp only [scanEnd]
      split
      next hq => exact ih (Bool.and_eq_true_iff.mp hq).2 h.tail
      next => exact ih trivial h.tail

/-- Where the scan is outside a literal, positions apart, it goes on as at the start of a text. -/
theorem literalsFrom_shift {s : QuoteState} {n i : Nat} {t : Text} :
    literalsFrom (s.shift n) (n + i) t = (literalsFrom s i t).map (Span.shift n) := by
  induction t generalizing s i with
  | nil => cases s <;> rfl
  | cons c t ih =>
    cases s with
    | inside q k =>
      simp only [QuoteState.shift, literalsFrom]
      split
      · exact congrArg (_ :: ·) (ih (s := .outside false) (i := i + 1))
      · exact ih (s := .inside q k) (i := i + 1)
    | outside canOpen =>
      simp only [QuoteState.shift, literalsFrom]
      split
      · exact ih (s := .inside c i) (i := i + 1)
      · exact ih (s := .outside (Text.isBlank c)) (i := i + 1)

theorem literalsFrom_outside (n : Nat) (t : Text) :
    literalsFrom (.outside true) n t = (literals t).map (Span.shift n) :=
  literalsFrom_shift (s := .outside true) (i := 0)

/-! ### Texts without quotes -/

theorem literalsFrom_of_no_quote {s : QuoteState} {i : Nat} {t : Text} (hs : s.Sound)
    (ht : ∀ c ∈ t, isQuote c = false) : literalsFrom s i t = [] := by
  induction t generalizing s i with
  | nil => cases s <;> rfl
  | cons c t ih =>
    have hc := ht c (List.mem_cons_self ..)
    have hrest : ∀ d ∈ t, isQuote d = false := fun d hd => ht d (List.mem_cons_of_mem c hd)
    cases s with
    | inside q k =>
      have hne : c ≠ q := by
        rintro rfl
        rw [show isQuote c = true from hs] at hc
        exact Bool.noConfusion hc
      simp only [literalsFrom, hne, decide_false, Bool.false_and, Bool.false_eq_true, if_false]
      exact ih hs hrest
    | outside canOpen =>
      simp only [literalsFrom, hc, Bool.and_false, Bool.false_eq_true, if_false]
      exact ih trivial hrest

/-- A text without quotes that ends with a blank opens and closes nothing. -/
theorem scanEnd_of_no_quote {s : QuoteState} {i : Nat} {t : Text} (hs : s.Sound)
    (ht : ∀ c ∈ t, isQuote c = false) (hlast : ∃ c ∈ t.getLast?, Text.isBlank c = true) :
    scanEnd s i t = s.afterBlank := by
  induction t generalizing s i with
  | nil => simp at hlast
  | cons c t ih =>
    have hc := ht c (List.mem_cons_self ..)
    have hrest : ∀ d ∈ t, isQuote d = false := fun d hd => ht d (List.mem_cons_of_mem c hd)
    cases s with
    | inside q k =>
      have hne : c ≠ q := by
        rintro rfl
        rw [show isQuote c = true from hs] at hc
        exact Bool.noConfusion hc
      simp only [scanEnd, hne, decide_false, Bool.false_and, Bool.false_eq_true, if_false]
      cases t with
      | nil => rfl
      | cons d t => exact ih (s := .inside q k) hs hrest (by simpa [List.getLast?_cons] using hlast)
    | outside canOpen =>
      simp only [scanEnd, hc, Bool.and_false, Bool.false_eq_true, if_false]
      cases t with
      | nil =>
        have hb : Text.isBlank c = true := by simpa using hlast
        rw [hb]
        rfl
      | cons d t =>
        exact ih (s := .outside (Text.isBlank c)) trivial hrest
          (by simpa [List.getLast?_cons] using hlast)

/-! ### Where literals lie -/

/-- A literal ends with a quote of the text. -/
theorem exists_last_quote {s : QuoteState} {i : Nat} {t : Text} (hs : s.Sound) {l : Span}
    (h : l ∈ literalsFrom s i t) :
    ∃ k q, l.stop = i + k + 1 ∧ t[k]? = some q ∧ isQuote q = true := by
  induction t generalizing s i with
  | nil => cases s <;> simp [literalsFrom] at h
  | cons c t ih =>
    have hrest : ∀ {u : QuoteState}, u.Sound → l ∈ literalsFrom u (i + 1) t →
        ∃ k q, l.stop = i + k + 1 ∧ (c :: t)[k]? = some q ∧ isQuote q = true := by
      intro u hu h'
      obtain ⟨k, q, hstop, hk, hq⟩ := ih hu h'
      exact ⟨k + 1, q, by omega, by simpa using hk, hq⟩
    cases s with
    | inside q k =>
      rw [literalsFrom] at h
      split at h
      next hclose =>
        rcases List.mem_cons.mp h with rfl | h
        · have hc : c = q := by simpa using (Bool.and_eq_true_iff.mp hclose).1
          exact ⟨0, q, rfl, by simp [hc], hs⟩
        · exact hrest (u := .outside false) trivial h
      next => exact hrest hs h
    | outside canOpen =>
      rw [literalsFrom] at h
      split at h
      next hq => exact hrest (u := .inside c i) (Bool.and_eq_true_iff.mp hq).2 h
      next => exact hrest (u := .outside _) trivial h

/-- A literal ends in the text, and starts there or where the open quote stands. -/
theorem bounds_of_mem_literalsFrom {s : QuoteState} {i : Nat} {t : Text} {l : Span}
    (h : l ∈ literalsFrom s i t) :
    i < l.stop ∧ l.stop ≤ i + t.length ∧ (i ≤ l.start ∨ ∃ quote, s = .inside quote l.start) := by
  induction t generalizing s i with
  | nil => cases s <;> simp [literalsFrom] at h
  | cons c t ih =>
    rw [List.length_cons]
    cases s with
    | inside q k =>
      rw [literalsFrom] at h
      split at h
      · rcases List.mem_cons.mp h with rfl | h
        · exact ⟨by simp, by simp, .inr ⟨q, rfl⟩⟩
        · obtain ⟨hlt, hle, hstart | ⟨_, hstate⟩⟩ := ih h
          · exact ⟨by omega, by omega, .inl (by omega)⟩
          · exact QuoteState.noConfusion hstate
      · obtain ⟨hlt, hle, hstart | ⟨q', hstate⟩⟩ := ih h
        · exact ⟨by omega, by omega, .inl (by omega)⟩
        · exact ⟨by omega, by omega, .inr ⟨q', hstate⟩⟩
    | outside canOpen =>
      rw [literalsFrom] at h
      split at h
      · obtain ⟨hlt, hle, hstart | ⟨_, hstate⟩⟩ := ih h
        · exact ⟨by omega, by omega, .inl (by omega)⟩
        · obtain ⟨_, hi⟩ := QuoteState.inside.inj hstate
          exact ⟨by omega, by omega, .inl (by omega)⟩
      · obtain ⟨hlt, hle, hstart | ⟨_, hstate⟩⟩ := ih h
        · exact ⟨by omega, by omega, .inl (by omega)⟩
        · exact QuoteState.noConfusion hstate

/-- If a literal follows an open quote, the first one starts at that quote. -/
theorem literalsFrom_inside (q : Char) (k i : Nat) (t : Text) :
    literalsFrom (.inside q k) i t = [] ∨
      ∃ n rest, literalsFrom (.inside q k) i t = ⟨k, n⟩ :: rest ∧ i < n := by
  induction t generalizing i with
  | nil => exact .inl rfl
  | cons c t ih =>
    rw [literalsFrom]
    split
    · exact .inr ⟨i + 1, _, rfl, Nat.lt_succ_self i⟩
    · rcases ih (i + 1) with h | ⟨n, rest, h, hn⟩
      · exact .inl h
      · exact .inr ⟨n, rest, h, by omega⟩

end Instruction

end Cuesheet
