import Cuesheet.Proofs.Script.Comment

/-!
Brackets of a script.

A text is `Nested` if its brackets close in the order in which they were opened and none stays open.
What a piece of a script does to the brackets that are open around it is told by `awaitedFrom`, which
reads comments over; the judgement `Takes` keeps that together with the mode, and composes over the
pieces of a line. Lines need less: a `Block` closes what it opens, however its last line ends, since
the line feed after it ends a comment. Blocks may be indented and put one below the other.
-/

namespace Cuesheet.Script

/-! ### Nesting -/

/-- The bracket that closes an opening one. -/
def closing? : Char → Option Char
  | '(' => some ')'
  | '[' => some ']'
  | '\x7b' => some '\x7d'
  | _ => none

def isClosing (c : Char) : Bool := c = ')' || c = ']' || c = '\x7d'

def isBracket (c : Char) : Bool := (closing? c).isSome || isClosing c

/-- The closing brackets awaited, innermost first, after one more character; none if it closes
another bracket than the innermost one. -/
def await? (awaited : List Char) (c : Char) : Option (List Char) :=
  match closing? c with
  | some closing => some (closing :: awaited)
  | none =>
    if isClosing c then
      match awaited with
      | closing :: outer => if c = closing then some outer else none
      | [] => none
    else some awaited

/-- The closing brackets awaited after a text. -/
def awaitedAfter : List Char → Text → Option (List Char)
  | awaited, [] => some awaited
  | awaited, c :: t => (await? awaited c).bind fun awaited' => awaitedAfter awaited' t

/-- Every bracket of the text is closed by its partner, in order. -/
def Nested (t : Text) : Prop := awaitedAfter [] t = some []

instance (t : Text) : Decidable (Nested t) := inferInstanceAs (Decidable (_ = _))

theorem await?_of_not_isBracket {c : Char} (h : isBracket c = false) (awaited : List Char) :
    await? awaited c = some awaited := by
  obtain ⟨hopening, hclosing⟩ := Bool.or_eq_false_iff.mp h
  rw [Option.isSome_eq_false_iff, Option.isNone_iff_eq_none] at hopening
  unfold await?
  rw [hopening, hclosing]
  rfl

def brackets : Text := "()[]\x7b\x7d"

theorem mem_of_isBracket {c : Char} (h : isBracket c = true) : c ∈ brackets := by
  simp only [isBracket, closing?, isClosing, Bool.or_eq_true, decide_eq_true_eq] at h
  rcases h with h | (rfl | rfl) | rfl
  · split at h <;> first | decide | exact absurd h (by decide)
  · decide
  · decide
  · decide

/-- What is open further out makes no difference. -/
theorem await?_append {awaited awaited' : List Char} {c : Char} (h : await? awaited c = some awaited')
    (outer : List Char) : await? (awaited ++ outer) c = some (awaited' ++ outer) := by
  unfold await? at h ⊢
  split at h
  · rw [← Option.some.inj h]
    rfl
  · split at h
    next hclosing =>
      rw [if_pos hclosing]
      cases awaited with
      | nil => exact absurd h (by simp)
      | cons closing rest =>
        by_cases hc : c = closing
        · simp only [if_pos hc] at h
          simp only [List.cons_append, if_pos hc, ← Option.some.inj h]
        · simp [hc] at h
    next hclosing => rw [if_neg hclosing, ← Option.some.inj h]

/-! ### Outside of comments -/

/-- The closing brackets awaited after a text that is read from a mode on. A comment opens and closes
none. -/
def awaitedFrom : Mode → List Char → Text → Option (List Char)
  | _, awaited, [] => some awaited
  | m, awaited, c :: t =>
    (if m = .comment then some awaited else await? awaited c).bind fun awaited' =>
      awaitedFrom (m.next c) awaited' t

theorem awaitedFrom_cons {m : Mode} (hm : m ≠ .comment) (a : List Char) (c : Char) (t : Text) :
    awaitedFrom m a (c :: t) = (await? a c).bind fun b => awaitedFrom (m.next c) b t := by
  rw [awaitedFrom, if_neg hm]

theorem awaitedFrom_comment_cons (a : List Char) (c : Char) (t : Text) :
    awaitedFrom .comment a (c :: t) = awaitedFrom (Mode.comment.next c) a t := rfl

theorem awaitedFrom_append (m : Mode) (a : List Char) (t u : Text) :
    awaitedFrom m a (t ++ u) = (awaitedFrom m a t).bind fun b => awaitedFrom (modeAfter m t) b u := by
  induction t generalizing m a with
  | nil => rfl
  | cons c t ih =>
    simp only [List.cons_append, awaitedFrom, Option.bind_assoc, ih, modeAfter_cons]

/-- A line feed begins a line of code, whatever stands before it. -/
theorem awaitedFrom_break (m : Mode) (a : List Char) (t : Text) :
    awaitedFrom m a ('\n' :: t) = awaitedFrom .code a t := by
  cases m <;> rfl

theorem awaitedFrom_comment {t : Text} (h : Text.Unbroken t) (a : List Char) :
    awaitedFrom .comment a t = some a := by
  induction t with
  | nil => rfl
  | cons c t ih =>
    have hc : c ≠ '\n' := fun he => h (he ▸ List.mem_cons_self ..)
    rw [awaitedFrom_comment_cons, Mode.next_comment hc, ih fun ht => h (List.mem_cons_of_mem c ht)]

theorem awaitedFrom_outer {m : Mode} {a b : List Char} {t : Text} (h : awaitedFrom m a t = some b)
    (outer : List Char) : awaitedFrom m (a ++ outer) t = some (b ++ outer) := by
  induction t generalizing m a with
  | nil => rw [awaitedFrom, ← Option.some.inj h]
  | cons c t ih =>
    rw [awaitedFrom] at h ⊢
    obtain ⟨a', hstep, hrest⟩ := Option.bind_eq_some_iff.mp h
    split at hstep
    next hm =>
      rw [if_pos hm, ← ih (Option.some.inj hstep ▸ hrest)]
      rfl
    next hm =>
      rw [if_neg hm, await?_append hstep, ← ih hrest]
      rfl

/-- Taking the comments out of a text and reading them over come to the same, from wherever the
reader stands. -/
theorem awaitedAfter_uncommented (a : List Char) (t : Text) :
    awaitedAfter a (uncommented false t) = awaitedFrom .code a t ∧
      awaitedAfter a (uncommented false ('/' :: t)) = awaitedFrom .slash a t ∧
      awaitedAfter a (uncommented true t) = awaitedFrom .comment a t := by
  induction t generalizing a with
  | nil => exact ⟨rfl, rfl, rfl⟩
  | cons c t ih =>
    refine ⟨?_, ?_, ?_⟩
    · by_cases hc : c = '/'
      · rw [hc, (ih a).2.1]
        rfl
      · rw [uncommented_cons hc, awaitedFrom_cons (by decide), Mode.next_code hc, awaitedAfter]
        simp only [(ih _).1]
    · by_cases hc : c = '/'
      · rw [hc, uncommented, (ih a).2.2]
        rfl
      · rw [uncommented_slash hc, awaitedFrom_cons (by decide), Mode.next_slash hc, awaitedAfter,
          await?_of_not_isBracket (by decide), Option.bind_some, awaitedAfter]
        simp only [(ih _).1]
    · by_cases hc : c = '\n'
      · rw [hc, uncommented, if_pos rfl, awaitedAfter, await?_of_not_isBracket (by decide),
          Option.bind_some, (ih a).1]
        rfl
      · rw [uncommented, if_neg hc, (ih a).2.2, awaitedFrom_comment_cons, Mode.next_comment hc]

/-- A script without its comments is nested if reading them over leaves nothing open. -/
theorem nested_withoutComments_iff (t : Text) :
    Nested (withoutComments t) ↔ awaitedFrom .code [] t = some [] := by
  rw [Nested, withoutComments, (awaitedAfter_uncommented [] t).1]

/-! ### Pieces of a line -/

/-- Read from the mode `m` on with `a` awaited, the text ends in the mode `m'` with `a'` awaited. -/
structure Takes (m : Mode) (a : List Char) (t : Text) (m' : Mode) (a' : List Char) : Prop where
  mode : modeAfter m t = m'
  awaited : awaitedFrom m a t = some a'

/-- Code that closes what it opens and may be followed by more code on its line. -/
def Expression (t : Text) : Prop := ∀ a, Takes .code a t .code a

/-- Code that closes what it opens; its last line may end in a comment. -/
def Block (t : Text) : Prop := ∀ a, awaitedFrom .code a t = some a

/-- What a text must not hold to stand in a comment or on a line of code without a trace. -/
def lineMarks : Text := "/\r\n"

/-- No bracket, slash or end of a line occurs in the text. -/
def Inert (t : Text) : Prop := ∀ c ∈ t, isBracket c = false ∧ c ∉ lineMarks

instance (t : Text) : Decidable (Inert t) := inferInstanceAs (Decidable (∀ c ∈ t, _))

/-- The brackets of the text are nested, and no slash or end of a line occurs in it. -/
structure Tidy (t : Text) : Prop where
  nested : Nested t
  plain : ∀ c ∈ t, c ∉ lineMarks

instance (t : Text) : Decidable (Tidy t) :=
  decidable_of_iff (Nested t ∧ ∀ c ∈ t, c ∉ lineMarks)
    ⟨fun h => ⟨h.1, h.2⟩, fun h => ⟨h.nested, h.plain⟩⟩

section

variable {m m' m'' : Mode} {a a' a'' : List Char} {t u : Text}

theorem Takes.append (ht : Takes m a t m' a') (hu : Takes m' a' u m'' a'') :
    Takes m a (t ++ u) m'' a'' where
  mode := by rw [modeAfter_append, ht.mode, hu.mode]
  awaited := by rw [awaitedFrom_append, ht.awaited, ht.mode, Option.bind_some, hu.awaited]

theorem Takes.comment (h : Text.Unbroken t) (a : List Char) : Takes .comment a t .comment a :=
  ⟨modeAfter_comment h, awaitedFrom_comment h a⟩

theorem Expression.append (ht : Expression t) (hu : Expression u) : Expression (t ++ u) :=
  fun a => (ht a).append (hu a)

theorem Expression.join {sep : Text} (hsep : Expression sep) {ts : List Text}
    (h : ∀ t ∈ ts, Expression t) : Expression (Text.join sep ts) := by
  induction ts with
  | nil => exact fun a => ⟨rfl, rfl⟩
  | cons t ts ih =>
    obtain ⟨ht, hts⟩ := List.forall_mem_cons.mp h
    cases ts with
    | nil => exact ht
    | cons u us => exact (ht.append hsep).append (ih hts)

theorem Expression.of_semicolon (h : Expression (t ++ ");")) : Expression (t ++ ")") := by
  intro a
  have hmode : modeAfter .code (t ++ ")") = .code := modeAfter_of_semicolon (h a).mode
  have hlast : t ++ (");" : Text) = (t ++ ")") ++ [';'] := by rw [List.append_assoc]; rfl
  have hawaited := (h a).awaited
  rw [hlast, awaitedFrom_append, hmode] at hawaited
  obtain ⟨b, hb, hrest⟩ := Option.bind_eq_some_iff.mp hawaited
  exact ⟨hmode, hb.trans hrest⟩

theorem awaitedFrom_inert (m : Mode) (a : List Char) (h : ∀ c ∈ t, isBracket c = false) :
    awaitedFrom m a t = some a := by
  induction t generalizing m with
  | nil => rfl
  | cons c t ih =>
    obtain ⟨hc, ht⟩ := List.forall_mem_cons.mp h
    rw [awaitedFrom, await?_of_not_isBracket hc, ite_self, Option.bind_some, ih _ ht]

theorem Inert.slashless (h : Inert t) : Slashless t :=
  ⟨fun hc => absurd (h _ hc).2 (by decide), fun hc => absurd (h _ hc).2 (by decide)⟩

theorem Inert.expression (h : Inert t) : Expression t := fun a =>
  ⟨h.slashless.mode, awaitedFrom_inert _ a fun c hc => (h c hc).1⟩

theorem Inert.of_isInfix (h : Inert t) (hu : u <:+: t) : Inert u := fun c hc => h c (hu.mem hc)

/-- A slash before it stays alone. -/
theorem Inert.takes_slash (h : Inert t) (hne : t ≠ []) (a : List Char) : Takes .slash a t .code a :=
  ⟨modeAfter_slash h.slashless.no_slash hne, awaitedFrom_inert _ a fun c hc => (h c hc).1⟩

theorem Tidy.slashless (h : Tidy t) : Slashless t :=
  ⟨fun hc => absurd (h.plain _ hc) (by decide), fun hc => absurd (h.plain _ hc) (by decide)⟩

theorem Tidy.expression (h : Tidy t) : Expression t := by
  intro a
  have hnested := h.nested
  rw [← withoutComments_of_no_slash h.slashless.no_slash, nested_withoutComments_iff] at hnested
  exact ⟨h.slashless.mode, awaitedFrom_outer hnested a⟩

theorem Expression.tidy (h : Expression t) (hplain : ∀ c ∈ t, c ∉ lineMarks) : Tidy t := by
  refine ⟨?_, hplain⟩
  have hno : '/' ∉ t := fun hc => absurd (hplain _ hc) (by decide)
  rw [← withoutComments_of_no_slash hno, nested_withoutComments_iff]
  exact (h []).awaited

/-! ### Lines -/

theorem Expression.block (h : Expression t) : Block t := fun a => (h a).awaited

/-- A line that is all comment. -/
theorem block_comment (h : Text.Unbroken t) : Block ("//" ++ t) := by
  intro a
  have hslashes : Takes .code a "//" .comment a := ⟨rfl, rfl⟩
  exact (hslashes.append (.comment h a)).awaited

/-- What lines one below the other do to the brackets around them they do one after the other. -/
theorem awaitedFrom_stack (a : List Char) (ts : List Text) :
    awaitedFrom .code a (Text.stack ts) = ts.foldlM (awaitedFrom .code) a := by
  induction ts generalizing a with
  | nil => rfl
  | cons t ts ih =>
    by_cases hts : ts = []
    · subst hts
      exact (bind_pure _).symm
    · rw [Text.stack_cons hts, awaitedFrom_append, List.foldlM_cons]
      simp only [awaitedFrom_break, ih]
      rfl

theorem foldlM_blocks {ts : List Text} (h : ∀ t ∈ ts, Block t) (a : List Char) :
    ts.foldlM (awaitedFrom .code) a = some a := by
  induction ts with
  | nil => rfl
  | cons t ts ih =>
    obtain ⟨ht, hts⟩ := List.forall_mem_cons.mp h
    rw [List.foldlM_cons, ht a]
    exact ih hts

theorem Block.stack {ts : List Text} (h : ∀ t ∈ ts, Block t) : Block (Text.stack ts) := fun a => by
  rw [awaitedFrom_stack, foldlM_blocks h]

theorem awaitedFrom_chomp (a : List Char) (l : Text) :
    awaitedFrom .code a (Text.chomp l) = awaitedFrom .code a l := by
  rcases Text.chomp_cases l with h | h
  · rw [← h]
  · conv => rhs; rw [h, awaitedFrom_append]
    cases awaitedFrom .code a (Text.chomp l) with
    | none => rfl
    | some b => exact (awaitedFrom_inert _ b (by decide)).symm

/-- Moving lines to the right changes nothing. -/
theorem awaitedFrom_indent (a : List Char) (t : Text) :
    awaitedFrom .code a (Text.indent t) = awaitedFrom .code a t := by
  have hindented : ∀ (a : List Char) (l : Text),
      awaitedFrom .code a ("  " ++ l) = awaitedFrom .code a l := fun _ _ => rfl
  rw [Text.indent, awaitedFrom_stack]
  induction t using Text.line_induction generalizing a with
  | nil => rfl
  | last l hne hl =>
    rw [Text.lines_of_unbroken hl hne]
    exact (bind_pure _).trans (hindented a l)
  | more l t hl ih =>
    rw [Text.lines_append_break hl, List.map_cons, List.foldlM_cons, hindented, awaitedFrom_chomp,
      awaitedFrom_append]
    simp only [awaitedFrom_break, ih]
    rfl

theorem Block.indent (h : Block t) : Block (Text.indent t) := fun a => by
  rw [awaitedFrom_indent, h a]

end

end Cuesheet.Script
