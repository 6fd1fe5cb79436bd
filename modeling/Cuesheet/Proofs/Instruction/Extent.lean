import Cuesheet.Proofs.Instruction.Literal

/-!
Which stretches of a text are its literals.

A literal reaches from a quote that opens to the first quote of its kind behind that closes
(`IsLiteral`). Of two that overlap only the one on the left counts, and behind a quote that opens and
never closes there is none. That says all: the literals of a text are the one list of spans that are
literals, in order and apart, such that every opening quote outside of them stands at or behind one that
never closes (`marked_iff_eq_literals`).
-/

namespace Cuesheet.Instruction

variable {t : Text} {i : Nat} {spans : List Span}

/-! ### Quotes that open and quotes that close -/

/-- A quote at position `i` would open: the text starts there, or a blank stands right before. -/
def MayOpen (t : Text) (i : Nat) : Prop := i = 0 ∨ ∃ c, t[i - 1]? = some c ∧ Text.isBlank c = true

/-- The quote `q` stands at position `i` and opens. -/
structure OpensAt (t : Text) (q : Char) (i : Nat) : Prop where
  stands : t[i]? = some q
  quote : isQuote q = true
  may : MayOpen t i

/-- The quote `q` stands at position `i` and closes: the text ends there, or a blank, a comma or a
closing bracket follows. -/
structure ClosesAt (t : Text) (q : Char) (i : Nat) : Prop where
  stands : t[i]? = some q
  may : ∀ c, t[i + 1]? = some c → Text.isBlank c = true ∨ c = ',' ∨ c = ')'

/-- The span reaches from where the quote `q` opens to where it first closes, both quotes included. -/
structure IsLiteral (t : Text) (q : Char) (l : Span) : Prop where
  opens : OpensAt t q l.start
  closes : ClosesAt t q (l.stop - 1)
  length : l.start + 2 ≤ l.stop
  first : ∀ i, l.start < i → i < l.stop - 1 → ¬ ClosesAt t q i

/-- From position `i` on, a quote opens at `p` that lies in none of the spans. -/
structure Loose (t : Text) (i : Nat) (spans : List Span) (p : Nat) : Prop where
  within : i ≤ p
  opens : ∃ q, OpensAt t q p
  outside : ∀ l ∈ spans, l.covers p = false

/-- From position `i` on, a quote opens at `o`, behind all the spans, that never closes. -/
structure Unclosed (t : Text) (i : Nat) (spans : List Span) (o : Nat) : Prop where
  within : i ≤ o
  opens : ∃ q, OpensAt t q o ∧ ∀ j, o < j → ¬ ClosesAt t q j
  behind : ∀ l ∈ spans, l.stop ≤ o

/-- The spans mark the literals of the text from position `i` on. -/
structure Marked (t : Text) (i : Nat) (spans : List Span) : Prop where
  within : ∀ l ∈ spans, i ≤ l.start
  literal : ∀ l ∈ spans, ∃ q, IsLiteral t q l
  apart : spans.Pairwise fun l m => l.stop ≤ m.start
  loose : ∃ o, ∀ p, Loose t i spans p → o ≤ p ∧ Unclosed t i spans o

theorem covers_iff {l : Span} {p : Nat} : l.covers p = true ↔ l.start ≤ p ∧ p < l.stop := by
  simp [Span.covers]

theorem covers_eq_false_iff {l : Span} {p : Nat} : l.covers p = false ↔ p < l.start ∨ l.stop ≤ p := by
  rw [← Bool.not_eq_true, covers_iff]
  omega

theorem IsLiteral.start_lt_stop {q : Char} {l : Span} (h : IsLiteral t q l) : l.start < l.stop := by
  have := h.length
  omega

/-! ### What the scan finds -/

theorem closesBefore_iff :
    closesBefore t = true ↔ ∀ c, t.head? = some c → Text.isBlank c = true ∨ c = ',' ∨ c = ')' := by
  cases t <;> simp [closesBefore, or_assoc]

/-- What the state of the scan says of the text up to position `i`. -/
def QuoteState.Tells (t : Text) (i : Nat) : QuoteState → Prop
  | .outside canOpen => canOpen = true ↔ MayOpen t i
  | .inside q k => k < i ∧ OpensAt t q k ∧ ∀ j, k < j → j < i → ¬ ClosesAt t q j

/-- Where a scan in this state at position `i` can still find a literal start. -/
def QuoteState.origin (i : Nat) : QuoteState → Nat
  | .outside _ => i
  | .inside _ k => k

/-- Nothing begins at a position where no quote opens. -/
theorem Marked.of_not_opens (hi : ∀ q, ¬ OpensAt t q i) (h : Marked t (i + 1) spans) :
    Marked t i spans := by
  obtain ⟨o, ho⟩ := h.loose
  refine ⟨fun l hl => Nat.le_of_succ_le (h.within l hl), h.literal, h.apart, o, fun p hp => ?_⟩
  obtain ⟨q, hq⟩ := hp.opens
  have hne : i ≠ p := fun he => hi q (he ▸ hq)
  have hlt : i + 1 ≤ p := Nat.lt_of_le_of_ne hp.within hne
  obtain ⟨hle, hun⟩ := ho p ⟨hlt, hp.opens, hp.outside⟩
  exact ⟨hle, Nat.le_of_succ_le hun.within, hun.opens, hun.behind⟩

/-- A literal goes before what is marked behind it. -/
theorem Marked.cons {q : Char} {l : Span} (hl : IsLiteral t q l) (h : Marked t l.stop spans) :
    Marked t l.start (l :: spans) := by
  have hlt := hl.start_lt_stop
  obtain ⟨o, ho⟩ := h.loose
  refine ⟨?_, ?_, List.pairwise_cons.mpr ⟨h.within, h.apart⟩, o, fun p hp => ?_⟩
  · refine List.forall_mem_cons.mpr ⟨Nat.le_refl _, fun m hm => ?_⟩
    exact Nat.le_trans (Nat.le_of_lt hlt) (h.within m hm)
  · exact List.forall_mem_cons.mpr ⟨⟨q, hl⟩, h.literal⟩
  · obtain ⟨hout, hrest⟩ := List.forall_mem_cons.mp hp.outside
    have hstop : l.stop ≤ p :=
      (covers_eq_false_iff.mp hout).resolve_left (Nat.not_lt.mpr hp.within)
    obtain ⟨hle, hun⟩ := ho p ⟨hstop, hp.opens, hrest⟩
    have hwithin := hun.within
    exact ⟨hle, by omega, hun.opens, List.forall_mem_cons.mpr ⟨hwithin, hun.behind⟩⟩

/-- Behind a quote that never closes nothing is marked. -/
theorem Marked.of_unclosed {q : Char} {k : Nat} (hk : OpensAt t q k)
    (hnever : ∀ j, k < j → ¬ ClosesAt t q j) : Marked t k [] :=
  ⟨by simp, by simp, .nil, k, fun _ hp => ⟨hp.within, Nat.le_refl k, ⟨q, hk, hnever⟩, by simp⟩⟩

/-- At the end of the text nothing is left to mark. -/
theorem Marked.of_length_le (hi : t.length ≤ i) : Marked t i [] := by
  refine ⟨by simp, by simp, .nil, 0, fun p hp => ?_⟩
  obtain ⟨q, hq⟩ := hp.opens
  obtain ⟨hlt, -⟩ := List.getElem?_eq_some_iff.mp hq.stands
  exact absurd hp.within (by omega)

/-- No quote opens right behind one that closes. -/
theorem OpensAt.not_mayOpen_succ {q : Char} {k : Nat} (hopens : OpensAt t q k)
    (hcloses : ClosesAt t q i) : ¬ MayOpen t (i + 1) := by
  have hblank : Text.isBlank q = false := isBlank_false_of_isQuote hopens.quote
  simp [MayOpen, hcloses.stands, hblank]

section Step

variable {w rest : Text} {c : Char}

theorem getElem?_of_drop_eq_cons (h : w.drop i = c :: rest) :
    w[i]? = some c ∧ w.drop (i + 1) = rest := by
  constructor
  · rw [← List.head?_drop, h, List.head?_cons]
  · rw [← List.drop_drop, h, List.drop_one, List.tail_cons]

/-- Outside of literals the scan takes the character that stands next for an opening quote exactly if it
is one. -/
theorem opensAt_iff {canOpen : Bool} (h : w.drop i = c :: rest) (hs : canOpen = true ↔ MayOpen w i)
    (q : Char) : OpensAt w q i ↔ c = q ∧ (canOpen && isQuote c) = true := by
  obtain ⟨hc, -⟩ := getElem?_of_drop_eq_cons h
  rw [Bool.and_eq_true_iff, hs]
  constructor
  · intro hq
    obtain rfl : c = q := Option.some.inj (hc.symm.trans hq.stands)
    exact ⟨rfl, hq.may, hq.quote⟩
  · rintro ⟨rfl, hmay, hquote⟩
    exact ⟨hc, hquote, hmay⟩

/-- Within a literal the scan takes the character that stands next for the closing quote exactly if it is
that. -/
theorem closesAt_iff {q : Char} (h : w.drop i = c :: rest) :
    ClosesAt w q i ↔ (c = q && closesBefore rest) = true := by
  obtain ⟨hc, hdrop⟩ := getElem?_of_drop_eq_cons h
  have hnext : w[i + 1]? = rest.head? := by rw [← hdrop, List.head?_drop]
  rw [Bool.and_eq_true_iff, decide_eq_true_iff, closesBefore_iff, ← hnext]
  constructor
  · intro hq
    exact ⟨Option.some.inj (hc.symm.trans hq.stands), hq.may⟩
  · rintro ⟨rfl, hmay⟩
    exact ⟨hc, hmay⟩

end Step

/-- **The scan marks the literals** of what is left of the text, and of the text from the quote on that
is open. -/
theorem marked_literalsFrom {w rest : Text} {s : QuoteState} (hrest : w.drop i = rest)
    (hs : s.Tells w i) : Marked w (s.origin i) (literalsFrom s i rest) := by
  -- On what is left of the text: what the state tells of the text before it carries the induction.
  induction rest generalizing s i with
  | nil =>
    have hend : w.length ≤ i := List.drop_eq_nil_iff.mp hrest
    cases s with
    | outside canOpen => exact .of_length_le hend
    | inside q k =>
      obtain ⟨-, hopens, hnone⟩ := hs
      refine .of_unclosed hopens fun j hkj hcloses => hnone j hkj ?_ hcloses
      obtain ⟨hlt, -⟩ := List.getElem?_eq_some_iff.mp hcloses.stands
      omega
  | cons c rest ih =>
    obtain ⟨hc, hdrop⟩ := getElem?_of_drop_eq_cons hrest
    cases s with
    | outside canOpen =>
      have hopen := opensAt_iff hrest hs
      rw [literalsFrom]
      split
      next hyes =>
        refine ih (s := .inside c i) hdrop ⟨Nat.lt_succ_self i, (hopen c).mpr ⟨rfl, hyes⟩, ?_⟩
        intro j hij hji
        omega
      next hno =>
        refine .of_not_opens (fun q hq => hno ((hopen q).mp hq).2) (ih (s := .outside _) hdrop ?_)
        simp [QuoteState.Tells, QuoteState.origin, MayOpen, hc]
    | inside q k =>
      obtain ⟨hki, hopens, hnone⟩ := hs
      have hclose : ClosesAt w q i ↔ _ := closesAt_iff hrest
      rw [literalsFrom]
      split
      next hyes =>
        have hcloses := hclose.mpr hyes
        have hbehind : Marked w (i + 1) (literalsFrom (.outside false) (i + 1) rest) :=
          ih (s := .outside false) hdrop (by simp [QuoteState.Tells, hopens.not_mayOpen_succ hcloses])
        exact .cons (l := ⟨k, i + 1⟩) ⟨hopens, hcloses, Nat.succ_le_succ hki, hnone⟩ hbehind
      next hno =>
        refine ih (s := .inside q k) hdrop ⟨Nat.lt_succ_of_lt hki, hopens, fun j hkj hji => ?_⟩
        rcases Nat.lt_succ_iff_lt_or_eq.mp hji with hlt | rfl
        · exact hnone j hkj hlt
        · exact fun h => hno (hclose.mp h)

/-! ### There is one way to mark a text -/

/-- Two literals that start at the same place are one. -/
theorem IsLiteral.eq_of_start {q r : Char} {l m : Span} (hl : IsLiteral t q l)
    (hm : IsLiteral t r m) (h : l.start = m.start) : l = m := by
  obtain rfl : q = r := Option.some.inj (hl.opens.stands.symm.trans (h ▸ hm.opens.stands))
  have hlength := hl.length
  have hlength' := hm.length
  have hstop : l.stop = m.stop := by
    rcases Nat.lt_trichotomy l.stop m.stop with hlt | heq | hlt
    · exact absurd hl.closes (hm.first _ (by omega) (by omega))
    · exact heq
    · exact absurd hm.closes (hl.first _ (by omega) (by omega))
  cases l
  cases m
  simp_all

namespace Marked

variable {l : Span} {ls : List Span}

theorem tail (h : Marked t i (l :: ls)) : Marked t l.stop ls := by
  have hwithin := h.within l (List.mem_cons_self ..)
  obtain ⟨⟨q, hl⟩, hliteral⟩ := List.forall_mem_cons.mp h.literal
  have hlt := hl.start_lt_stop
  obtain ⟨hbehind, hapart⟩ := List.pairwise_cons.mp h.apart
  obtain ⟨o, ho⟩ := h.loose
  refine ⟨hbehind, hliteral, hapart, o, fun p hp => ?_⟩
  have hstop := hp.within
  have hout : l.covers p = false := covers_eq_false_iff.mpr (.inr hstop)
  obtain ⟨hle, hun⟩ := ho p ⟨by omega, hp.opens, List.forall_mem_cons.mpr ⟨hout, hp.outside⟩⟩
  obtain ⟨hlo, hrest⟩ := List.forall_mem_cons.mp hun.behind
  exact ⟨hle, hlo, hun.opens, hrest⟩

/-- Before the first literal there is none. -/
theorem not_covers {p : Nat} (h : Marked t i (l :: ls)) (hp : p < l.start) :
    ∀ n ∈ l :: ls, n.covers p = false := by
  obtain ⟨q, hl⟩ := h.literal l (List.mem_cons_self ..)
  have hlt := hl.start_lt_stop
  refine List.forall_mem_cons.mpr ⟨covers_eq_false_iff.mpr (.inl hp), fun n hn => ?_⟩
  have hbehind := (List.pairwise_cons.mp h.apart).1 n hn
  exact covers_eq_false_iff.mpr (.inl (by omega))

/-- Before the first literal no quote opens. -/
theorem not_opensAt {q : Char} {p : Nat} (h : Marked t i (l :: ls)) (hi : i ≤ p) (hp : p < l.start) :
    ¬ OpensAt t q p := by
  intro hopens
  obtain ⟨r, hl⟩ := h.literal l (List.mem_cons_self ..)
  have hlt := hl.start_lt_stop
  obtain ⟨o, ho⟩ := h.loose
  obtain ⟨hle, hun⟩ := ho p ⟨hi, ⟨q, hopens⟩, h.not_covers hp⟩
  have hbehind := hun.behind l (List.mem_cons_self ..)
  omega

/-- The first literal starts no earlier than the first one of another marking. -/
theorem start_le {m : Span} {ms : List Span} (hl : Marked t i (l :: ls))
    (hm : Marked t i (m :: ms)) : m.start ≤ l.start := by
  obtain ⟨q, hliteral⟩ := hl.literal l (List.mem_cons_self ..)
  refine Nat.le_of_not_lt fun hlt => ?_
  exact hm.not_opensAt (hl.within l (List.mem_cons_self ..)) hlt hliteral.opens

/-- Where one marking has a literal, another has one too. -/
theorem not_nil (hl : Marked t i (l :: ls)) : ¬ Marked t i [] := by
  intro h
  obtain ⟨q, hliteral⟩ := hl.literal l (List.mem_cons_self ..)
  have hlength := hliteral.length
  obtain ⟨o, ho⟩ := h.loose
  obtain ⟨hle, hun⟩ := ho l.start ⟨hl.within l (List.mem_cons_self ..), ⟨q, hliteral.opens⟩, by simp⟩
  obtain ⟨r, hopens, hnever⟩ := hun.opens
  rcases Nat.lt_or_eq_of_le hle with hbefore | rfl
  · exact hl.not_opensAt hun.within hbefore hopens
  · obtain rfl : q = r := Option.some.inj (hliteral.opens.stands.symm.trans hopens.stands)
    exact hnever _ (by omega) hliteral.closes

/-- A text is marked in one way. -/
theorem unique {ms : List Span} (hl : Marked t i ls) (hm : Marked t i ms) : ls = ms := by
  induction ls generalizing i ms with
  | nil =>
    cases ms with
    | nil => rfl
    | cons m ms => exact absurd hl hm.not_nil
  | cons l ls ih =>
    cases ms with
    | nil => exact absurd hm hl.not_nil
    | cons m ms =>
      obtain ⟨q, hliteral⟩ := hl.literal l (List.mem_cons_self ..)
      obtain ⟨r, hother⟩ := hm.literal m (List.mem_cons_self ..)
      have hstart := Nat.le_antisymm (hm.start_le hl) (hl.start_le hm)
      obtain rfl := hliteral.eq_of_start hother hstart
      rw [ih hl.tail hm.tail]

end Marked

/-- **The literals of a text are the one list that marks it**: literals from an opening quote to the
first that closes it, in order and apart, which leave out an opening quote only at or behind one that
opens behind them all and never closes. -/
theorem marked_iff_eq_literals (t : Text) (spans : List Span) :
    Marked t 0 spans ↔ spans = literals t := by
  have hscan : Marked t 0 (literals t) :=
    marked_literalsFrom (s := .outside true) List.drop_zero (by simp [QuoteState.Tells, MayOpen])
  exact ⟨fun h => h.unique hscan, fun h => h ▸ hscan⟩

/-- The quote that opens last closes nowhere and keeps the other from opening a literal. -/
example : literals "say 'a \"b, c' or \"d 'e'" = [⟨4, 13⟩] := by decide

end Cuesheet.Instruction
