import Mathlib.Data.List.Infix
import Cuesheet.Proofs.Instruction.Names
import Cuesheet.Proofs.Instruction.Quote
import Cuesheet.Proofs.Text.Lowercase

/-!
Texts around a literal.

A literal stands between two texts as such if the scan comes to it outside a literal and can close it
(`literals_around`). What is heard in it depends on the clause that holds it. A clause can begin where
the scan is outside a literal, at the start of the text or behind one of a few words (`Starts`): so
behind each link at which a phrase cuts the text, unless the link begins within a literal
(`Link.starts`). Behind such a front of a clause the literal is asked to say nothing that would be taken
for a phrase there (`Silent`), which carries over to every piece of the text that begins where a clause
can (`Around.piece`).
-/

namespace Cuesheet.Instruction

/-! ### Where the scan is outside a literal -/

theorem scanEnd_shift {s : QuoteState} {n i : Nat} {t : Text} :
    scanEnd (s.shift n) (n + i) t = (scanEnd s i t).shift n := by
  induction t generalizing s i with
  | nil => cases s <;> rfl
  | cons c t ih =>
    cases s with
    | inside q k =>
      simp only [QuoteState.shift, scanEnd]
      split
      · exact ih (s := .outside false) (i := i + 1)
      · exact ih (s := .inside q k) (i := i + 1)
    | outside canOpen =>
      simp only [QuoteState.shift, scanEnd]
      split
      · exact ih (s := .inside c i) (i := i + 1)
      · exact ih (s := .outside (Text.isBlank c)) (i := i + 1)

/-- A literal can open at the start of a text and after a blank only. -/
theorem last_of_scanEnd {s : QuoteState} {i : Nat} {t : Text} (h : scanEnd s i t = .outside true) :
    ∀ c ∈ t.getLast?, Text.isBlank c = true := by
  induction t generalizing s i with
  | nil => simp
  | cons c t ih =>
    have hrest : ∀ {s' : QuoteState}, scanEnd s' (i + 1) t = .outside true →
        (t = [] → s' = .outside true → Text.isBlank c = true) →
        ∀ d ∈ (c :: t).getLast?, Text.isBlank d = true := by
      intro s' hs' hnil d hd
      cases t with
      | nil =>
        obtain rfl : c = d := by simpa using hd
        exact hnil rfl (by cases s' <;> exact hs')
      | cons e t => exact ih hs' d (by simpa [List.getLast?_cons] using hd)
    cases s with
    | inside q k =>
      rw [scanEnd] at h
      split at h
      · exact hrest h fun _ he => by cases he
      · exact hrest h fun _ he => by cases he
    | outside canOpen =>
      rw [scanEnd] at h
      split at h
      · exact hrest h fun _ he => by cases he
      · exact hrest h fun _ he => QuoteState.outside.inj he

variable {u a b v m : Text}

/-- The scan of the text ends where a quote would open a literal. -/
def Opens (t : Text) : Prop := scanEnd (.outside true) 0 t = .outside true

instance (t : Text) : Decidable (Opens t) := inferInstanceAs (Decidable (_ = _))

theorem Opens.seam (h : Opens u) (t : Text) : Seam u t := .inr (last_of_scanEnd h)

/-- After a text that opens, the scan goes on as at the start. -/
theorem Opens.append_iff (hu : Opens u) : Opens (u ++ a) ↔ Opens a := by
  have hshift := scanEnd_shift (s := .outside true) (n := u.length) (i := 0) (t := a)
  rw [Opens, scanEnd_append (s := .outside true) trivial (hu.seam a), hu, Nat.zero_add]
  rw [QuoteState.shift, Nat.add_zero] at hshift
  rw [hshift, Opens]
  cases scanEnd (.outside true) 0 a <;> simp [QuoteState.shift]

theorem Opens.literals_append (hu : Opens u) (t : Text) :
    literals (u ++ t) = literals u ++ (literals t).map (Span.shift u.length) := by
  rw [Instruction.literals_append (hu.seam t), hu, literalsFrom_outside]

/-! ### Within a literal -/

/-- The position is that of the opening quote of a literal or lies in its contents. -/
def Within (t : Text) (j : Nat) : Prop := ∃ l ∈ literals t, l.start ≤ j ∧ j + 1 < l.stop

instance (t : Text) (j : Nat) : Decidable (Within t j) :=
  inferInstanceAs (Decidable (∃ l ∈ literals t, l.start ≤ j ∧ j + 1 < l.stop))

/-- A text that stays outside a literal if its first character does not open one. -/
structure Mark (k : Text) : Prop where
  split : ∃ c w, k = c :: w ∧ (Text.isBlank c = true ∨ closesBefore w = true) ∧
    (∀ d ∈ w, isQuote d = false) ∧ ∃ d ∈ w.getLast?, Text.isBlank d = true

theorem scanEnd_inside_of_nil {q : Char} {k i : Nat} {t : Text}
    (h : literalsFrom (.inside q k) i t = []) : scanEnd (.inside q k) i t = .inside q k := by
  induction t generalizing i with
  | nil => rfl
  | cons c t ih =>
    rw [literalsFrom] at h
    rw [scanEnd]
    split at h
    · cases h
    next hc =>
      rw [if_neg hc]
      exact ih h

/-- A mark is scanned like a blank after its first character. -/
theorem Mark.scan {k : Text} (hk : Mark k) (u : Text) : ∃ c w, k = c :: w ∧ w ≠ [] ∧ ∀ a,
    scanEnd (.outside true) 0 (u ++ (k ++ a)) =
        scanEnd (scanEnd (.outside true) 0 (u ++ [c])).afterBlank (u.length + k.length) a ∧
      literals (u ++ (k ++ a)) = literals (u ++ [c]) ++
        literalsFrom (scanEnd (.outside true) 0 (u ++ [c])).afterBlank (u.length + k.length) a := by
  obtain ⟨c, w, rfl, hseam, hquote, hlast⟩ := hk.split
  have hne : w ≠ [] := by
    rintro rfl
    simp at hlast
  refine ⟨c, w, rfl, hne, fun a => ?_⟩
  have hfirst : Seam (u ++ [c]) (w ++ a) := by
    rcases hseam with hc | hclose
    · refine .inr fun d hd => ?_
      obtain rfl : c = d := by simpa using hd
      exact hc
    · obtain ⟨e, w, rfl⟩ := List.exists_cons_of_ne_nil hne
      exact .inl hclose
  have hsecond : Seam w a := .inr fun d hd => by
    obtain ⟨d', hd', hblank⟩ := hlast
    rw [Option.mem_def] at hd hd'
    rwa [← Option.some.inj (hd'.symm.trans hd)]
  have hassoc : u ++ (c :: w ++ a) = (u ++ [c]) ++ (w ++ a) := by simp
  have hlength : 0 + (u ++ [c]).length + w.length = u.length + (c :: w).length := by
    simp only [List.length_append, List.length_cons, List.length_nil]
    omega
  have hstate := scanEnd_sound (s := .outside true) (i := 0) (t := u ++ [c]) trivial
  constructor
  · rw [hassoc, scanEnd_append (s := .outside true) trivial hfirst, scanEnd_append hstate hsecond,
      scanEnd_of_no_quote hstate hquote hlast, hlength]
  · rw [hassoc, Instruction.literals_append hfirst, ← Nat.zero_add (u ++ [c]).length,
      literalsFrom_append hstate hsecond, literalsFrom_of_no_quote hstate hquote, List.nil_append,
      scanEnd_of_no_quote hstate hquote hlast, hlength]

/-- After a mark that does not begin within a literal the scan is outside of one, if it is so
later on. -/
theorem Mark.opens {k : Text} (hk : Mark k) (h : Opens (u ++ (k ++ a)))
    (hin : ¬ Within (u ++ (k ++ a)) u.length) : Opens (u ++ k) := by
  obtain ⟨c, w, rfl, hw, hscan⟩ := hk.scan u
  have hmark := (hscan []).1
  rw [List.append_nil] at hmark
  rw [Opens, hmark]
  cases hs : scanEnd (.outside true) 0 (u ++ [c]) with
  | outside canOpen => rfl
  | inside q start =>
    -- The open literal would close later on, and the mark would lie in it.
    exfalso
    obtain ⟨hend, hliterals⟩ := hscan a
    rw [hs, QuoteState.afterBlank] at hend hliterals
    rw [Opens, hend] at h
    rcases literalsFrom_inside q start (u.length + (c :: w).length) a with
      hnil | ⟨n, rest, hcons, hn⟩
    · rw [scanEnd_inside_of_nil hnil] at h
      cases h
    · have hstart : start ≤ u.length := by
        rcases scanEnd_inside hs with he | ⟨-, hlt⟩
        · cases he
        · rw [List.length_append, List.length_singleton] at hlt
          omega
      have hstop : u.length + 1 < n := by
        have hpos := List.length_pos_iff.mpr hw
        rw [List.length_cons] at hn
        omega
      refine hin ⟨⟨start, n⟩, ?_, hstart, hstop⟩
      rw [hliterals, hcons]
      exact List.mem_append_right _ (List.mem_cons_self ..)

/-! ### Where a clause can begin -/

/-- The last word of a text, blanks behind it apart. -/
def lastWord (t : Text) : Text :=
  ((Text.trimStart t.reverse).takeWhile fun c => !Text.isBlank c).reverse

/-- The words behind which a clause can begin. -/
def clauseWords : List Text := ["if", "then", "until", "and", "or"]

/-- Where the text ends a clause can begin: outside of literals, at the start or behind a blank after
one of the words that lead to a clause. -/
structure Starts (t : Text) : Prop where
  opens : Opens t
  word : lastWord t ∈ [] :: clauseWords

instance (t : Text) : Decidable (Starts t) :=
  decidable_of_iff (Opens t ∧ ([] :: clauseWords).contains (lastWord t) = true)
    ⟨fun h => ⟨h.1, List.contains_iff_mem.mp h.2⟩, fun h => ⟨h.opens, List.contains_iff_mem.mpr h.word⟩⟩

theorem lastWord_of_blank (h : ∀ c ∈ a, Text.isBlank c = true) : lastWord a = [] := by
  have hnil : Text.trimStart a.reverse = [] :=
    List.dropWhile_eq_nil_iff.mpr fun c hc => h c (List.mem_reverse.mp hc)
  rw [lastWord, hnil]
  rfl

theorem lastWord_append_blank (h : ∀ c ∈ a, Text.isBlank c = true) : lastWord (u ++ a) = lastWord u := by
  have hblank : ∀ c ∈ a.reverse, Text.isBlank c = true := fun c hc => h c (List.mem_reverse.mp hc)
  rw [lastWord, List.reverse_append, Text.trimStart, List.dropWhile_append_of_pos hblank]
  rfl

/-- The last word does not reach over a blank. -/
theorem lastWord_append (hu : ∀ c ∈ u.getLast?, Text.isBlank c = true)
    (ha : ∃ c ∈ a, Text.isBlank c = false) : lastWord (u ++ a) = lastWord a := by
  have hne : Text.trimStart a.reverse ≠ [] := by
    intro hnil
    obtain ⟨c, hc, hblank⟩ := ha
    rw [List.dropWhile_eq_nil_iff.mp hnil c (List.mem_reverse.mpr hc)] at hblank
    exact Bool.noConfusion hblank
  have hstop : u.reverse.takeWhile (fun c => !Text.isBlank c) = [] := by
    cases hrev : u.reverse with
    | nil => rfl
    | cons c rest =>
      have hc : c ∈ u.getLast? := by
        rw [← List.head?_reverse, hrev]
        rfl
      rw [List.takeWhile_cons_of_neg (by simp [hu c hc])]
  have hdrop : Text.trimStart (u ++ a).reverse = Text.trimStart a.reverse ++ u.reverse := by
    rw [List.reverse_append, Text.trimStart, List.dropWhile_append, ← Text.trimStart, if_neg]
    simpa using hne
  rw [lastWord, hdrop, List.takeWhile_append, hstop, List.append_nil]
  split
  next hall => rw [lastWord, (List.takeWhile_prefix _).eq_of_length hall]
  next => rfl

/-- A word with blanks behind it is the last word, if a blank stands before it. -/
theorem lastWord_append_word {w : Text} (hu : ∀ c ∈ u.getLast?, Text.isBlank c = true) (hne : w ≠ [])
    (hw : ∀ c ∈ w, Text.isBlank c = false) (hv : ∀ c ∈ v, Text.isBlank c = true) :
    lastWord (u ++ (w ++ v)) = w := by
  obtain ⟨c, hc⟩ := List.exists_mem_of_ne_nil w hne
  have hstart : Text.trimStart w.reverse = w.reverse :=
    Text.trimStart_of_head fun d hd => hw d (List.mem_reverse.mp (List.mem_of_mem_head? hd))
  have hall : w.reverse.takeWhile (fun d => !Text.isBlank d) = w.reverse :=
    List.takeWhile_eq_self_iff.mpr fun d hd => by simp [hw d (List.mem_reverse.mp hd)]
  rw [← List.append_assoc, lastWord_append_blank hv, lastWord_append hu ⟨c, hc, hw c hc⟩, lastWord,
    hstart, hall, List.reverse_reverse]

theorem starts_of_blank (h : ∀ c ∈ a, Text.isBlank c = true) : Starts a :=
  ⟨scanEnd_of_blank h, by simp [lastWord_of_blank h]⟩

theorem Starts.append (hu : Starts u) (ha : Starts a) : Starts (u ++ a) where
  opens := hu.opens.append_iff.mpr ha.opens
  word := by
    by_cases hblank : ∀ c ∈ a, Text.isBlank c = true
    · rw [lastWord_append_blank hblank]
      exact hu.word
    · have hsome : ∃ c ∈ a, Text.isBlank c = false := by simpa using hblank
      rw [lastWord_append (last_of_scanEnd hu.opens) hsome]
      exact ha.word

/-- What leads to a clause: a mark that ends in one of the words, with blanks on either side. -/
structure Link (k : Text) : Prop extends Mark k where
  word : ∃ before w after, k = before ++ (w ++ after) ∧ w ∈ clauseWords ∧
    (∃ c ∈ before.getLast?, Text.isBlank c = true) ∧ ∀ c ∈ after, Text.isBlank c = true

/-- After a link that does not begin within a literal a clause can begin, if the scan is outside of
literals later on. -/
theorem Link.starts {k : Text} (hk : Link k) (h : Opens (u ++ (k ++ a)))
    (hin : ¬ Within (u ++ (k ++ a)) u.length) : Starts (u ++ k) where
  opens := hk.toMark.opens h hin
  word := by
    have hwords : ∀ w ∈ clauseWords, w ≠ [] ∧ w.any Text.isBlank = false := by decide
    obtain ⟨before, w, after, rfl, hw, ⟨c, hc, hblank⟩, hafter⟩ := hk.word
    obtain ⟨hne, hplain⟩ := hwords w hw
    have hlast : ∀ d ∈ (u ++ before).getLast?, Text.isBlank d = true := by
      intro d hd
      rw [Option.mem_def] at hc hd
      rw [List.getLast?_append, hc, Option.some_or] at hd
      exact Option.some.inj hd ▸ hblank
    rw [← List.append_assoc,
      lastWord_append_word hlast hne (Text.forall_of_any_eq_false hplain) hafter]
    exact List.mem_cons_of_mem _ hw

/-- Of the text `a` before a literal, `c` can be what stands before it in its clause: a clause can begin
there, and no `and` parts it from the literal. -/
structure Front (a c : Text) : Prop where
  starts : ∃ u, a = u ++ c ∧ Starts u
  undivided : openSeparators "and" c = []

theorem Front.append_left {c : Text} (hu : Starts u) (h : Front a c) : Front (u ++ a) c := by
  obtain ⟨v, rfl, hv⟩ := h.starts
  exact ⟨⟨u ++ v, (List.append_assoc ..).symm, hu.append hv⟩, h.undivided⟩

theorem front_self (h : openSeparators "and" a = []) : Front a a := ⟨⟨[], rfl, by decide⟩, h⟩

instance (a c : Text) : Decidable (Front a c) :=
  decidable_of_iff (c <:+ a ∧ Starts (a.take (a.length - c.length)) ∧ openSeparators "and" c = []) <| by
    constructor
    · rintro ⟨⟨u, rfl⟩, hstarts, hc⟩
      rw [List.length_append, Nat.add_sub_cancel, List.take_left] at hstarts
      exact ⟨⟨u, rfl, hstarts⟩, hc⟩
    · rintro ⟨⟨u, rfl, hstarts⟩, hc⟩
      refine ⟨⟨u, rfl⟩, ?_, hc⟩
      rwa [List.length_append, Nat.add_sub_cancel, List.take_left]

instance (a : Text) (p : Text → Prop) [DecidablePred p] : Decidable (∀ c, Front a c → p c) :=
  decidable_of_iff (∀ c ∈ a.tails, Front a c → p c) <| by
    refine ⟨fun h c hc => h c ?_ hc, fun h c _ => h c⟩
    obtain ⟨u, rfl, -⟩ := hc.starts
    exact (List.mem_tails _ _).mpr ⟨u, rfl⟩

/-! ### A literal and what stands around it -/

/-- Behind the front `c` of a clause the literal says nothing that would be taken for a phrase there: no
wait and no ordinal where one would be found, and nothing at which the clause would be cut within a
literal. -/
structure Silent (c : Text) (q : Char) (x : Text) : Prop where
  no_wait : isCompound (c ++ [q]) = false → wait? (quoted q x) = none
  no_ordinal : isCompound (c ++ [q]) = false →
    (∀ comparison, comparison? comparison (c ++ [q]) = none) →
      nthChild? (c ++ [q]) = none → nthChild? (quoted q x) = none
  no_then : ∀ r ∈ conditional? (c ++ quoted q x),
    ¬ Within (c ++ quoted q x) (("if " : Text).length + r.1.length)
  no_guard : ∀ r ∈ report? (c ++ quoted q x), r.2 ≠ none →
    ¬ Within (c ++ quoted q x) (("report '" : Text).length + r.1.length)

instance (c : Text) (q : Char) (x : Text) : Decidable (Silent c q x) :=
  decidable_of_iff ((isCompound (c ++ [q]) = false → wait? (quoted q x) = none) ∧
      (isCompound (c ++ [q]) = false →
        (∀ comparison ∈ [.notContains, .startsWith, .endsWith], comparison? comparison (c ++ [q]) = none) →
          nthChild? (c ++ [q]) = none → nthChild? (quoted q x) = none) ∧
      (∀ r ∈ conditional? (c ++ quoted q x),
        ¬ Within (c ++ quoted q x) (("if " : Text).length + r.1.length)) ∧
      ∀ r ∈ report? (c ++ quoted q x), r.2 ≠ none →
        ¬ Within (c ++ quoted q x) (("report '" : Text).length + r.1.length)) <| by
    have hall : ∀ comparison : Comparison, comparison ∈ [.notContains, .startsWith, .endsWith] := by
      intro comparison
      cases comparison <;> decide
    constructor
    · rintro ⟨hwait, hordinal, hthen, hguard⟩
      exact ⟨hwait, fun hbare hnone => hordinal hbare fun comparison _ => hnone comparison, hthen, hguard⟩
    · intro h
      exact ⟨h.no_wait, fun hbare hnone => h.no_ordinal hbare fun comparison => hnone comparison (hall _),
        h.no_then, h.no_guard⟩

/-- What a literal asks of the texts before and after it. -/
structure Around (q : Char) (x a b : Text) : Prop where
  opens : Opens a
  closes : closesBefore b = true
  silent : ∀ c, Front a c → Silent c q x
  lower : Text.lower (a ++ (quoted q x ++ b)) = a ++ (quoted q x ++ b)

variable {q : Char} {x : Text}

/-- **A literal keeps to itself in every piece of the text** that begins where a clause can. -/
theorem Around.piece (h : Around q x (u ++ a) (b ++ v)) (hu : Starts u) : Around q x a b where
  opens := hu.opens.append_iff.mp h.opens
  closes := by
    cases b with
    | nil => rfl
    | cons c b => exact h.closes
  silent := fun c hc => h.silent c (hc.append_left hu)
  lower := Text.lower_of_isInfix h.lower ⟨u, v, by simp⟩

theorem Around.suffix (h : Around q x (u ++ a) b) (hu : Starts u) : Around q x a b := by
  rw [← List.append_nil b] at h
  exact h.piece hu

/-- The literals of a text: those before the literal, the literal itself, and those after it. -/
theorem literals_around (hq : isQuote q = true) (hx : q ∉ x) (ha : Opens a)
    (hb : closesBefore b = true) : literals (a ++ (quoted q x ++ b)) =
      literals a ++ ⟨a.length, a.length + (quoted q x).length⟩ ::
        literalsFrom (.outside false) (a.length + (quoted q x).length) b := by
  have hlength : a.length + 1 + x.length + 1 = a.length + (quoted q x).length := by
    simp only [quoted, List.length_cons, List.length_append, List.length_nil]
    omega
  have hquoted : quoted q x ++ b = q :: (x ++ q :: b) := by simp [quoted]
  rw [Instruction.literals_append (ha.seam _), ha, hquoted, literalsFrom, if_pos (by simp [hq]),
    literalsFrom_contents hx, if_pos hb, hlength]

/-- A position within a literal before stays within one. -/
theorem Within.append_quoted {j : Nat} (h : Within a j) (hq : isQuote q = true) (hx : q ∉ x)
    (ha : Opens a) : Within (a ++ quoted q x) j := by
  obtain ⟨l, hl, hbounds⟩ := h
  have hliterals := literals_around (b := []) hq hx ha rfl
  rw [List.append_nil] at hliterals
  exact ⟨l, hliterals ▸ List.mem_append_left _ hl, hbounds⟩

/-- The opening quote and the contents of the literal lie within it. -/
theorem within_quoted {j : Nat} (hq : isQuote q = true) (hx : q ∉ x) (ha : Opens a)
    (hj : j ≤ x.length) : Within (a ++ quoted q x) (a.length + j) := by
  have hliterals := literals_around (b := []) hq hx ha rfl
  rw [List.append_nil] at hliterals
  refine ⟨⟨a.length, a.length + (quoted q x).length⟩, ?_, Nat.le_add_right .., ?_⟩
  · exact hliterals ▸ List.mem_append_right _ (List.mem_cons_self ..)
  · simp only [quoted, List.length_cons, List.length_append, List.length_nil]
    omega

/-! ### Finding the literals -/

/-- The span is that of a literal to which the scan comes outside of one and which it can close. -/
def Stands (s : QuoteState) (i : Nat) (t : Text) (l : Span) : Prop :=
  ∃ a q x b, t = a ++ (quoted q x ++ b) ∧ isQuote q = true ∧ scanEnd s i a = .outside true ∧
    closesBefore b = true ∧ l = ⟨i + a.length, i + a.length + (quoted q x).length⟩

theorem Stands.cons {s s' : QuoteState} {i : Nat} {c : Char} {t : Text} {l : Span}
    (hscan : ∀ a m, t = a ++ m → scanEnd s' (i + 1) a = .outside true →
      scanEnd s i (c :: a) = .outside true)
    (h : Stands s' (i + 1) t l) : Stands s i (c :: t) l := by
  obtain ⟨a, q, x, b, rfl, hq, ha, hb, rfl⟩ := h
  refine ⟨c :: a, q, x, b, rfl, hq, hscan a _ rfl ha, hb, ?_⟩
  simp only [List.length_cons, Span.mk.injEq]
  omega

/-- Within a literal a step sees the same of a text as of its front, unless the scan stops there. -/
theorem scanEnd_inside_cons {s' : QuoteState} {q c : Char} {k i : Nat} {t : Text}
    (hs' : s' ≠ .outside true) (hstep : ∀ a, closesBefore a = closesBefore t →
      scanEnd (.inside q k) i (c :: a) = scanEnd s' (i + 1) a) :
    ∀ a m, t = a ++ m → scanEnd s' (i + 1) a = .outside true →
      scanEnd (.inside q k) i (c :: a) = .outside true := by
  rintro a m rfl ha
  cases a with
  | nil => exact absurd ha (by cases s' <;> exact hs')
  | cons d a => rw [hstep (d :: a) rfl, ha]

/-- A literal was open where the scan began, or stands in the text. -/
theorem stands_of_mem_literalsFrom {s : QuoteState} {i : Nat} {t : Text} {l : Span} (hs : s.Sound)
    (h : l ∈ literalsFrom s i t) :
    (∃ q x b, s = .inside q l.start ∧ t = x ++ q :: b ∧ closesBefore b = true ∧
      l.stop = i + x.length + 1) ∨ Stands s i t l := by
  induction t generalizing s i with
  | nil => cases s <;> cases h
  | cons c t ih =>
    cases s with
    | inside q k =>
      rw [literalsFrom] at h
      split at h
      next hclose =>
        obtain ⟨hc, hb⟩ := Bool.and_eq_true_iff.mp hclose
        rcases List.mem_cons.mp h with rfl | h
        · exact .inl ⟨q, [], t, rfl, by rw [of_decide_eq_true hc]; rfl, hb, rfl⟩
        · rcases ih (s := .outside false) trivial h with ⟨_, _, _, hstate, _⟩ | hlater
          · cases hstate
          · refine .inr (hlater.cons (scanEnd_inside_cons (by simp) fun a ha => ?_))
            rw [← ha] at hclose
            rw [scanEnd, if_pos hclose]
      next hopen =>
        rcases ih hs h with ⟨q', x, b, hstate, rfl, hb, hstop⟩ | hlater
        · obtain ⟨rfl, hk⟩ := QuoteState.inside.inj hstate
          exact .inl ⟨q, c :: x, b, by rw [hk], rfl, hb, by rw [hstop, List.length_cons]; omega⟩
        · refine .inr (hlater.cons (scanEnd_inside_cons (by simp) fun a ha => ?_))
          rw [← ha] at hopen
          rw [scanEnd, if_neg hopen]
    | outside canOpen =>
      rw [literalsFrom] at h
      split at h
      next hopen =>
        obtain ⟨hcan, hc⟩ := Bool.and_eq_true_iff.mp hopen
        rcases ih (s := .inside c i) hc h with ⟨q', x, b, hstate, rfl, hb, hstop⟩ | hlater
        · obtain ⟨rfl, hstart⟩ := QuoteState.inside.inj hstate
          refine .inr ⟨[], c, x, b, by simp [quoted], hc, by rw [scanEnd, hcan], hb, ?_⟩
          obtain ⟨start, stop⟩ := l
          simp only [quoted, List.length_cons, List.length_append, List.length_nil, Span.mk.injEq] at *
          omega
        · exact .inr (hlater.cons fun a m _ ha => by rw [scanEnd, if_pos hopen, ha])
      next hopen =>
        rcases ih (s := .outside _) trivial h with ⟨_, _, _, hstate, _⟩ | hlater
        · cases hstate
        · exact .inr (hlater.cons fun a m _ ha => by rw [scanEnd, if_neg hopen, ha])

/-- What stands around a literal of a text. -/
theorem opens_of_mem_literals
    (h : ⟨a.length, a.length + (quoted q x).length⟩ ∈ literals (a ++ (quoted q x ++ b))) :
    isQuote q = true ∧ Opens a ∧ closesBefore b = true := by
  rcases stands_of_mem_literalsFrom (s := .outside true) trivial h with
    ⟨_, _, _, hstate, _⟩ | ⟨a', q', x', b', ht, hq', ha', hb', hspan⟩
  · cases hstate
  · obtain ⟨hstart, hstop⟩ := Span.mk.inj hspan
    obtain ⟨rfl, hrest⟩ := List.append_inj ht (by omega)
    obtain ⟨hliteral, rfl⟩ := List.append_inj hrest (by omega)
    obtain ⟨rfl, -⟩ := List.cons.inj hliteral
    exact ⟨hq', ha', hb'⟩

/-! ### Outer blanks -/

theorem trimEnd_append_quote (hq : isQuote q = true) (a b : Text) :
    Text.trimEnd (a ++ q :: b) = a ++ q :: Text.trimEnd b := by
  induction a with
  | nil =>
    rw [List.nil_append, Text.trimEnd, isBlank_false_of_isQuote hq]
    cases Text.trimEnd b <;> rfl
  | cons c a ih =>
    rw [List.cons_append, Text.trimEnd, ih]
    cases a <;> rfl

theorem trim_around (hq : isQuote q = true) (a x b : Text) :
    Text.trim (a ++ (quoted q x ++ b)) = Text.trimStart a ++ (quoted q x ++ Text.trimEnd b) := by
  have hstart := Text.dropWhile_append_cons (isBlank_false_of_isQuote hq) a (x ++ q :: b)
  have hquoted : ∀ t, quoted q x ++ t = q :: (x ++ q :: t) := fun t => by simp [quoted]
  have hend := trimEnd_append_quote hq (Text.trimStart a ++ q :: x) b
  simp only [List.append_assoc, List.cons_append] at hend
  rw [hquoted, hquoted, Text.trim, Text.trimStart, hstart, ← Text.trimStart, hend]

theorem Around.trim (h : Around q x a b) : Around q x (Text.trimStart a) (Text.trimEnd b) := by
  obtain ⟨before, hbefore, ha⟩ := Text.exists_trimStart a
  obtain ⟨after, -, hb⟩ := Text.exists_trimEnd b
  rw [ha, hb] at h
  exact h.piece (starts_of_blank hbefore)

end Cuesheet.Instruction
