import Cuesheet.Instruction
import Cuesheet.Proofs.Instruction.Names

/-!
Phrases before a quote.

No phrase that an instruction is searched for has a quote in it, so what is found before a quote is
found there whatever comes after the quote. A lead, a check and what claims a text by its lead are
found before the first quote or not at all (`after?_quote`, `comparison?_quote`); a search through the
whole text goes on after the quote as if the text began there (`StopsAt.findAtWord`).
-/

namespace Cuesheet

namespace Text

/-- A lead without the character `q` ends before the first one. -/
theorem after?_append_cons {lead : Text} {q : Char} (hq : q ∉ lead) (v u : Text) :
    after? lead (v ++ q :: u) = (after? lead v).map (· ++ q :: u) := by
  induction lead generalizing v with
  | nil => rfl
  | cons d lead ih =>
    rw [List.mem_cons, not_or] at hq
    cases v with
    | nil => simp only [List.nil_append, after?, if_neg (Ne.symm hq.1), Option.map_none]
    | cons c v =>
      rw [List.cons_append, after?, after?]
      split
      · exact ih hq.2 v
      · rfl

theorem takeWhile_append_cons {p : Char → Bool} {q : Char} (hq : p q = false) (v u : Text) :
    (v ++ q :: u).takeWhile p = v.takeWhile p := by
  induction v with
  | nil => simp [hq]
  | cons c v ih => simp only [List.cons_append, List.takeWhile_cons, ih]

theorem dropWhile_append_cons {p : Char → Bool} {q : Char} (hq : p q = false) (v u : Text) :
    (v ++ q :: u).dropWhile p = v.dropWhile p ++ q :: u := by
  induction v with
  | nil => simp [hq]
  | cons c v ih =>
    simp only [List.cons_append, List.dropWhile_cons, ih]
    split <;> rfl

theorem wordEnds_append_cons {q : Char} (hq : isWord q = false) (v u : Text) :
    wordEnds (v ++ q :: u) = wordEnds v := by
  cases v with
  | nil => simp [wordEnds, hq]
  | cons c v => rfl

end Text

namespace Instruction

open Text (isName isWord isDecimalDigit)

/-! ### Quotes -/

theorem isQuote_cases {q : Char} (h : isQuote q = true) : q = '\'' ∨ q = '"' := by
  simpa [isQuote] using h

theorem isWord_false_of_isQuote {q : Char} (h : isQuote q = true) : isWord q = false := by
  rcases isQuote_cases h with rfl | rfl <;> decide

theorem isDecimalDigit_false_of_isQuote {q : Char} (h : isQuote q = true) :
    isDecimalDigit q = false := by
  rcases isQuote_cases h with rfl | rfl <;> decide

theorem not_mem_of_isQuote {q : Char} (h : isQuote q = true) {lead : Text}
    (hlead : lead.any isQuote = false) : q ∉ lead := fun hq => by
  rw [Text.forall_of_any_eq_false hlead q hq] at h
  exact Bool.noConfusion h

variable {q : Char} (hq : isQuote q = true)
include hq

/-- A lead without quotes ends before the quote. -/
theorem after?_quote {lead : Text} (hlead : lead.any isQuote = false) (v u : Text) :
    Text.after? lead (v ++ q :: u) = (Text.after? lead v).map (· ++ q :: u) :=
  Text.after?_append_cons (not_mem_of_isQuote hq hlead) v u

theorem restAfter?_quote {lead : Text} (hlead : lead.any isQuote = false) (v u : Text) :
    restAfter? lead (v ++ q :: u) = (Text.after? lead v).map (· ++ q :: u) := by
  rw [restAfter?, after?_quote hq hlead]
  cases Text.after? lead v with
  | none => rfl
  | some rest => simp

/-! ### Leads -/

theorem hasCompoundLead_quote (v u : Text) : hasCompoundLead (v ++ q :: u) = hasCompoundLead v := by
  have hends : ∀ lead ∈ compoundLeads, (Text.after? lead (v ++ q :: u)).any Text.wordEnds =
      (Text.after? lead v).any Text.wordEnds := by
    intro lead hlead
    have hplain : lead.any isQuote = false :=
      (by decide : ∀ l ∈ compoundLeads, l.any isQuote = false) lead hlead
    rw [after?_quote hq hplain]
    cases Text.after? lead v with
    | none => rfl
    | some rest => simp [Text.wordEnds_append_cons (isWord_false_of_isQuote hq)]
  rw [hasCompoundLead, hasCompoundLead, Bool.eq_iff_iff, List.any_eq_true, List.any_eq_true]
  exact exists_congr fun lead => and_congr_right fun hlead => by rw [hends lead hlead]

/-! ### Searches -/

omit hq in
theorem afterNames_map {α β : Type} (g : α → β) (find : Text → Option α) (fresh : Bool) (t : Text) :
    (afterNames find fresh t).map g = afterNames (fun t => (find t).map g) fresh t := by
  induction t generalizing fresh with
  | nil => rfl
  | cons c t ih =>
    rw [afterNames, afterNames]
    cases fresh with
    | false =>
      simp only [Bool.false_eq_true, if_false]
      split
      · exact ih false
      · split
        · exact ih true
        · rfl
    | true =>
      cases hc : find (c :: t) with
      | some a => simp
      | none =>
        simp only [if_true, Option.map_none]
        split
        · exact ih false
        · simp

omit hq in
theorem findAtWord_map {α β : Type} (g : α → β) (find : Text → Option α) (inWord : Bool) (t : Text) :
    (Text.findAtWord find inWord t).map g =
      Text.findAtWord (fun t => (find t).map g) inWord t := by
  induction t generalizing inWord with
  | nil => rfl
  | cons c t ih =>
    rw [Text.findAtWord, Text.findAtWord]
    cases inWord with
    | true => exact ih _
    | false =>
      cases hc : find (c :: t) with
      | some a => simp
      | none => simpa using ih _

omit hq in
theorem map_findSome?_congr {α β γ : Type} {f : α → Option β} {g : β → γ} {f' : α → Option γ}
    {es : List α} (h : ∀ e ∈ es, (f e).map g = f' e) :
    (es.findSome? f).map g = es.findSome? f' := by
  induction es with
  | nil => rfl
  | cons e es ih =>
    obtain ⟨he, hes⟩ := List.forall_mem_cons.mp h
    rw [List.findSome?_cons, List.findSome?_cons, ← he, ← ih hes]
    cases f e <;> rfl

/-- What finds nothing at a quote, and elsewhere before it the same whatever follows it. -/
structure StopsAt (q : Char) {α : Type} (find : Text → Option α) : Prop where
  front : ∀ u, find (q :: u) = none
  before : ∀ v u u', find (v ++ q :: u) = find (v ++ q :: u')

theorem StopsAt.afterNames {α : Type} {find : Text → Option α} (h : StopsAt q find) (fresh : Bool)
    (v u u' : Text) : afterNames find fresh (v ++ q :: u) = afterNames find fresh (v ++ q :: u') := by
  have hname := isName_false_of_isQuote hq
  have hspace : q ≠ ' ' := by rcases isQuote_cases hq with rfl | rfl <;> decide
  induction v generalizing fresh with
  | nil =>
    have hstop : ∀ u, Instruction.afterNames find fresh (q :: u) = none := by
      intro u
      simp only [Instruction.afterNames, h.front, hname, hspace, decide_false, Bool.false_and,
        Bool.false_eq_true, if_false]
      cases fresh <;> rfl
    rw [List.nil_append, List.nil_append, hstop, hstop]
  | cons c v ih =>
    have hbefore := h.before (c :: v) u u'
    simp only [List.cons_append] at hbefore ⊢
    rw [Instruction.afterNames, Instruction.afterNames, hbefore, ih true, ih false]

/-- A search through the whole text starts again after a quote. -/
theorem StopsAt.findAtWord {α : Type} {find : Text → Option α} (h : StopsAt q find) (inWord : Bool)
    (v u : Text) : Text.findAtWord find inWord (v ++ q :: u) =
      (Text.findAtWord find inWord (v ++ [q])).or (Text.findAtWord find false u) := by
  have hword := isWord_false_of_isQuote hq
  have hstop : ∀ b u, Text.findAtWord find b (q :: u) = Text.findAtWord find false u := by
    intro b u
    rw [Text.findAtWord, h.front, hword]
    cases b <;> rfl
  induction v generalizing inWord with
  | nil =>
    rw [List.nil_append, List.nil_append, hstop, hstop]
    rfl
  | cons c v ih =>
    have hbefore := h.before (c :: v) u []
    simp only [List.cons_append] at hbefore ⊢
    rw [Text.findAtWord, Text.findAtWord, hbefore]
    split
    · rfl
    · exact ih _

/-! ### Checks -/

theorem subject?_quote (v u : Text) :
    subject? (v ++ q :: u) = (subject? v).map fun (subject, rest) => (subject, rest ++ q :: u) := by
  have hname := isName_false_of_isQuote hq
  have htake := fun rest => Text.takeWhile_append_cons hname rest u
  have hdrop := fun rest => Text.dropWhile_append_cons hname rest u
  rw [subject?, subject?, after?_quote hq (by decide), after?_quote hq (by decide),
    after?_quote hq (by decide)]
  cases Text.after? "text" v with
  | some rest => rfl
  | none =>
    cases Text.after? "value" v with
    | some rest => rfl
    | none =>
      cases Text.after? "attribute " v with
      | none => rfl
      | some rest =>
        simp only [Option.map_none, Option.map_some, htake, hdrop]
        split <;> rfl

/-- What a comparison at the front of a text is of, if it ends before the text does. -/
theorem bareComparison?_quote (comparison : Comparison) (v u u' : Text) :
    (bareComparison? comparison (v ++ q :: u)).map (·.1) =
      (bareComparison? comparison (v ++ q :: u')).map (·.1) := by
  have hphrase : (" " ++ comparison.phrase ++ " " : Text).any isQuote = false := by
    cases comparison <;> decide
  have hsubject : ∀ u, (bareComparison? comparison (v ++ q :: u)).map (·.1) =
      (subject? v).bind fun (subject, rest) =>
        (Text.after? (" " ++ comparison.phrase ++ " ") rest).map fun _ => subject := by
    intro u
    rw [bareComparison?, subject?_quote hq]
    cases subject? v with
    | none => rfl
    | some s => simp only [Option.map_some, Option.bind_some, restAfter?_quote hq hphrase,
        Option.map_map, Function.comp_def]
  rw [hsubject, hsubject]

theorem bareComparison?_front (comparison : Comparison) (u : Text) :
    bareComparison? comparison (q :: u) = none := by
  have hnone : subject? (q :: u) = none := by
    have h := subject?_quote hq [] u
    rwa [List.nil_append, show subject? [] = none from rfl] at h
  rw [bareComparison?, hnone, Option.bind_none]

/-- **What a check is of does not depend on what follows the first quote.** -/
theorem comparison?_quote (comparison : Comparison) (v u u' : Text) :
    (comparison? comparison (v ++ q :: u)).map (·.1) =
      (comparison? comparison (v ++ q :: u')).map (·.1) := by
  have hstops : StopsAt q fun t => (bareComparison? comparison t).map (·.1) :=
    ⟨fun u => by rw [bareComparison?_front hq, Option.map_none],
      fun v u u' => bareComparison?_quote hq comparison v u u'⟩
  rw [comparison?, comparison?, afterNames_map, afterNames_map]
  exact hstops.afterNames hq true v u u'

/-! ### Ordinals -/

theorem childAt?_quote (v u : Text) : childAt? (v ++ q :: u) = childAt? v := by
  have hdigit := isDecimalDigit_false_of_isQuote hq
  have htake := fun rest => Text.takeWhile_append_cons hdigit rest u
  have hdrop := fun rest => Text.dropWhile_append_cons hdigit rest u
  have hends : ∀ ordinal : Text, (ordinal ++ " child").any isQuote = false → ∀ rest,
      (Text.after? (ordinal ++ " child") (rest ++ q :: u)).any Text.wordEnds =
        (Text.after? (ordinal ++ " child") rest).any Text.wordEnds := by
    intro ordinal hordinal rest
    rw [after?_quote hq hordinal]
    cases Text.after? (ordinal ++ " child") rest with
    | none => rfl
    | some r => simp [Text.wordEnds_append_cons (isWord_false_of_isQuote hq)]
  rw [childAt?, childAt?, after?_quote hq (by decide)]
  cases Text.after? "is the " v with
  | none => rfl
  | some rest =>
    simp only [Option.map_some, Option.bind_some, htake, hdrop, List.any_cons, List.any_nil,
      hends "st" (by decide), hends "nd" (by decide), hends "rd" (by decide), hends "th" (by decide)]
    rfl

/-- An ordinal stands before a quote or after it. -/
theorem nthChild?_quote (v u : Text) :
    nthChild? (v ++ q :: u) = (nthChild? (v ++ [q])).or (nthChild? u) := by
  have hstops : StopsAt q childAt? :=
    ⟨fun u => (childAt?_quote hq [] u).trans rfl,
      fun v u u' => (childAt?_quote hq v u).trans (childAt?_quote hq v u').symm⟩
  exact hstops.findAtWord hq false v u

/-! ### Waits -/

/-- The amount and the unit of a wait that was found. -/
def Timed (wait : Text × Nat × Text) : Text × Nat := (wait.1, wait.2.1)

/-- What the amount of a wait is part of. -/
def amountOf (rest : Text) : Text :=
  ((Text.after? "up to " rest).orElse fun _ => Text.after? "for " rest).getD rest

theorem amountOf_quote (v u : Text) : amountOf (v ++ q :: u) = amountOf v ++ q :: u := by
  rw [amountOf, amountOf, after?_quote hq (by decide), after?_quote hq (by decide)]
  cases Text.after? "up to " v with
  | some rest => rfl
  | none => cases Text.after? "for " v <;> rfl

theorem waitAt?_quote (v u u' : Text) :
    (waitAt? (v ++ q :: u)).map Timed = (waitAt? (v ++ q :: u')).map Timed := by
  have hdigit := isDecimalDigit_false_of_isQuote hq
  have hunit : ∀ e ∈ units, (" " ++ e.1 ++ " for ").any isQuote = false := by decide
  have hsame : ∀ u, (waitAt? (v ++ q :: u)).map Timed = (Text.after? "wait " v).bind fun rest =>
      if (amountOf rest).takeWhile isDecimalDigit = [] then none
      else units.findSome? fun e =>
        (Text.after? (" " ++ e.1 ++ " for ") ((amountOf rest).dropWhile isDecimalDigit)).map fun _ =>
          ((amountOf rest).takeWhile isDecimalDigit, e.2) := by
    intro u
    rw [waitAt?, after?_quote hq (by decide)]
    cases Text.after? "wait " v with
    | none => rfl
    | some rest =>
      have hamount := amountOf_quote hq rest u
      rw [amountOf] at hamount
      simp only [Option.map_some, Option.bind_some, hamount,
        Text.takeWhile_append_cons hdigit, Text.dropWhile_append_cons hdigit]
      split
      · rfl
      · refine map_findSome?_congr fun e he => ?_
        rw [restAfter?_quote hq (hunit e he), Option.map_map, Option.map_map]
        rfl
  rw [hsame, hsame]

/-- A wait stands before a quote or after it. -/
theorem wait?_quote (v u : Text) : (wait? (v ++ q :: u)).map Timed =
    ((wait? (v ++ [q])).map Timed).or ((wait? u).map Timed) := by
  have hstops : StopsAt q fun t => (waitAt? t).map Timed :=
    ⟨fun u => by rw [waitAt?, ← List.nil_append (q :: u), after?_quote hq (by decide)]; rfl,
      waitAt?_quote hq⟩
  simp only [wait?, findAtWord_map]
  exact hstops.findAtWord hq false v u

end Instruction

end Cuesheet
