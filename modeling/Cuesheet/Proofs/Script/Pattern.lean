import Cuesheet.Target.Matching
import Cuesheet.Text.Word
import Cuesheet.Proofs.Script.CodeUnit
import Cuesheet.Proofs.Script.LineEnd

/-!
Regular expressions of a script.

A literal between slashes is read as far as its pattern is made of anchors and of characters that match
themselves (`pattern?`); a pattern is looked for at every place of a string (`occurs`). The pattern of a
text is read as the units of the text, whatever stands in it (`patternFrom_literalPattern`), so behind the
anchor of the start it matches the strings that begin with the text, and before the anchor of the end
those that end with it (`occurs_start_iff`, `occurs_finish_iff`).
-/

namespace Cuesheet.Script

/-- One step of a pattern. -/
inductive Atom where
  /-- The string begins here. -/
  | start
  /-- The string ends here. -/
  | finish
  /-- A code unit comes next. -/
  | unit (u : Nat)
  deriving DecidableEq, Repr

/-- The atoms that match some units and nothing else. -/
def exactly (us : List Nat) : List Atom := us.map .unit

/-- The characters that a pattern gives a meaning of their own. -/
def syntaxCharacters : Text := "^$\\.*+?()[]\x7b\x7d|"

/-- The rest of a regular-expression literal, behind a backslash or not, and what follows the slash that
closes it. Only anchors and characters are read; a character with a meaning of its own, and a slash,
stands for itself behind a backslash. -/
def patternFrom : (escaped : Bool) → Text → Option (List Atom × Text)
  | _, [] => none
  | true, c :: t =>
    if c ∈ syntaxCharacters ∨ c = '/' then
      prepend (exactly (charUnits c)) (patternFrom false t)
    else none
  | false, c :: t =>
    if c = '/' then some ([], t)
    else if c = '\\' then patternFrom true t
    else if c = '^' then prepend [.start] (patternFrom false t)
    else if c = '$' then prepend [.finish] (patternFrom false t)
    else if c ∈ syntaxCharacters ∨ c ∈ lineEnds then none
    else prepend (exactly (charUnits c)) (patternFrom false t)

/-- Whether the text begins with what could stand in a name, and so with flags behind a literal. -/
def startsName (t : Text) : Bool := t.head?.any fun c => Text.isWord c || c = '$' || c = '\\'

/-- The pattern of the regular-expression literal at the front of a text, and what follows it. Two slashes
begin a comment and no literal; a literal with flags is not read. -/
def pattern? : Text → Option (List Atom × Text)
  | '/' :: '/' :: _ => none
  | '/' :: t => (patternFrom false t).filter fun (_, rest) => !startsName rest
  | _ => none

/-- Whether the atoms match one after the other from the front of some units on. The string begins
there or has begun before. -/
def fits : List Atom → (atStart : Bool) → List Nat → Bool
  | [], _, _ => true
  | .start :: p, atStart, x => atStart && fits p atStart x
  | .finish :: p, atStart, x => x.isEmpty && fits p atStart x
  | .unit _ :: _, _, [] => false
  | .unit u :: p, _, v :: x => u == v && fits p false x

/-- Whether the atoms match from some place of the units on. -/
def occursFrom (p : List Atom) : (atStart : Bool) → List Nat → Bool
  | atStart, [] => fits p atStart []
  | atStart, u :: x => fits p atStart (u :: x) || occursFrom p false x

/-- Whether a pattern matches a string. -/
def occurs (p : List Atom) (x : List Nat) : Bool := occursFrom p true x

/-- Behind one slash a pattern that is not empty is a literal, unless flags follow. -/
theorem pattern?_of_patternFrom {t rest : Text} {p : List Atom} (hp : p ≠ [])
    (h : patternFrom false t = some (p, rest)) (hrest : startsName rest = false) :
    pattern? ('/' :: t) = some (p, rest) := by
  rw [pattern?, h]
  · simp [hrest]
  · rintro u rfl
    have hcomment : patternFrom false ('/' :: u) = some ([], u) := if_pos rfl
    rw [hcomment] at h
    exact hp (Prod.mk.inj (Option.some.inj h)).1.symm

/-! ### What anchored units match -/

theorem fits_exactly_iff {us : List Nat} {p : List Atom} {atStart : Bool} {x : List Nat} :
    fits (exactly us ++ p) atStart x = true ↔
      ∃ rest, x = us ++ rest ∧ fits p (atStart && us.isEmpty) rest = true := by
  induction us generalizing atStart x with
  | nil => simp [exactly]
  | cons u us ih =>
    cases x with
    | nil => simp [exactly, fits]
    | cons v x =>
      have hstep : fits (exactly (u :: us) ++ p) atStart (v :: x) =
          (u == v && fits (exactly us ++ p) false x) := rfl
      simp only [hstep, Bool.and_eq_true, beq_iff_eq, ih, List.cons_append, List.cons.injEq,
        Bool.false_and, List.isEmpty_cons, Bool.and_false]
      constructor
      · rintro ⟨rfl, rest, rfl, hrest⟩
        exact ⟨rest, ⟨rfl, rfl⟩, hrest⟩
      · rintro ⟨rest, ⟨rfl, rfl⟩, hrest⟩
        exact ⟨rfl, rest, rfl, hrest⟩

/-- Past its beginning a string has no place for what is anchored there. -/
theorem not_occursFrom_start (p : List Atom) (x : List Nat) :
    occursFrom (.start :: p) false x = false := by
  induction x with
  | nil => rfl
  | cons u x ih => rw [occursFrom, ih, fits, Bool.false_and, Bool.false_or]

/-- Units anchored at the start match the strings that begin with them. -/
theorem occurs_start_iff {us x : List Nat} : occurs (.start :: exactly us) x = true ↔ us <+: x := by
  have hfits : fits (.start :: exactly us) true x = true ↔ us <+: x := by
    rw [fits, Bool.true_and, ← List.append_nil (exactly us), fits_exactly_iff]
    constructor
    · rintro ⟨rest, rfl, -⟩
      exact List.prefix_append us rest
    · rintro ⟨rest, rfl⟩
      exact ⟨rest, rfl, rfl⟩
  cases x with
  | nil => exact hfits
  | cons u x => rw [occurs, occursFrom, not_occursFrom_start, Bool.or_false, hfits]

/-- Units anchored at the end match the strings that end with them. -/
theorem occurs_finish_iff {us x : List Nat} :
    occurs (exactly us ++ [.finish]) x = true ↔ us <:+ x := by
  have hfits : ∀ atStart x, fits (exactly us ++ [.finish]) atStart x = true ↔ us = x := by
    intro atStart x
    rw [fits_exactly_iff]
    constructor
    · rintro ⟨rest, rfl, hrest⟩
      rw [fits, Bool.and_eq_true, List.isEmpty_iff] at hrest
      rw [hrest.1, List.append_nil]
    · rintro rfl
      exact ⟨[], (List.append_nil us).symm, rfl⟩
  suffices hfrom : ∀ atStart, occursFrom (exactly us ++ [.finish]) atStart x = true ↔ us <:+ x from
    hfrom true
  induction x with
  | nil => exact fun atStart => (hfits atStart []).trans List.suffix_nil.symm
  | cons u x ih =>
    intro atStart
    rw [occursFrom, Bool.or_eq_true, hfits, ih, List.suffix_cons_iff]

/-! ### The pattern of a text -/

/-- What a pattern writes behind a backslash is all that has a meaning there, and the slash. -/
theorem mem_metacharacters_iff {c : Char} :
    c ∈ Text.metacharacters ↔ c ∈ syntaxCharacters ∨ c = '/' := by
  have hmeta : ∀ c ∈ Text.metacharacters, c ∈ syntaxCharacters ∨ c = '/' := by decide
  have hsyntax : ∀ c ∈ syntaxCharacters, c ∈ Text.metacharacters := by decide
  refine ⟨hmeta c, ?_⟩
  rintro (hc | rfl)
  · exact hsyntax c hc
  · decide

theorem patternFrom_plain {c : Char} (hc : c ∉ Text.metacharacters) (hend : c ∉ lineEnds) (t : Text) :
    patternFrom false (c :: t) =
      prepend (exactly (charUnits c)) (patternFrom false t) := by
  have hne : ∀ d ∈ Text.metacharacters, c ≠ d := fun d hd he => hc (he ▸ hd)
  have hplain : ¬ (c ∈ syntaxCharacters ∨ c ∈ lineEnds) :=
    fun h => h.elim (fun hc' => hc (mem_metacharacters_iff.mpr (.inl hc'))) hend
  rw [patternFrom, if_neg (hne '/' (by decide)), if_neg (hne '\\' (by decide)),
    if_neg (hne '^' (by decide)), if_neg (hne '$' (by decide)), if_neg hplain]

theorem patternFrom_escaped {c : Char} (hc : c ∈ Text.metacharacters) (t : Text) :
    patternFrom false ('\\' :: c :: t) =
      prepend (exactly (charUnits c)) (patternFrom false t) := by
  rw [patternFrom, if_neg (by decide), if_pos rfl, patternFrom, if_pos (mem_metacharacters_iff.mp hc)]

/-- **The pattern of a text on one line is read as the units of the text.** -/
theorem patternFrom_literalPattern {t : Text} (h : Inline t) (rest : Text) :
    patternFrom false (Text.literalPattern t ++ rest) =
      prepend (exactly (units t)) (patternFrom false rest) := by
  induction t with
  | nil => exact (prepend_nil _).symm
  | cons c t ih =>
    obtain ⟨hc, ht⟩ := List.forall_mem_cons.mp h
    have hunits : exactly (units (c :: t)) = exactly (charUnits c) ++ exactly (units t) :=
      List.map_append
    rw [Text.literalPattern, hunits, ← prepend_prepend, ← ih ht]
    split
    next hmeta => rw [List.cons_append, List.cons_append, patternFrom_escaped hmeta]
    next hmeta => rw [List.cons_append, patternFrom_plain hmeta hc]

theorem literalPattern_append (s t : Text) :
    Text.literalPattern (s ++ t) = Text.literalPattern s ++ Text.literalPattern t := by
  induction s with
  | nil => rfl
  | cons c s ih =>
    rw [List.cons_append, Text.literalPattern, Text.literalPattern, ih]
    split <;> rfl

theorem literalPattern_injective : Function.Injective Text.literalPattern := by
  have hslash : ∀ c ∉ Text.metacharacters, '\\' ≠ c := fun c hc he => hc (he ▸ by decide)
  intro s t h
  induction s generalizing t with
  | nil =>
    cases t with
    | nil => rfl
    | cons d t =>
      rw [Text.literalPattern, Text.literalPattern] at h
      split at h <;> exact absurd h.symm (List.cons_ne_nil _ _)
  | cons c s ih =>
    cases t with
    | nil =>
      rw [Text.literalPattern, Text.literalPattern] at h
      split at h <;> exact absurd h (List.cons_ne_nil _ _)
    | cons d t =>
      rw [Text.literalPattern, Text.literalPattern] at h
      split at h <;> split at h
      next =>
        obtain ⟨rfl, hrest⟩ := List.cons.inj (List.cons.inj h).2
        rw [ih hrest]
      next hd => exact absurd (List.cons.inj h).1 (hslash d hd)
      next hc _ => exact absurd (List.cons.inj h).1.symm (hslash c hc)
      next =>
        obtain ⟨rfl, hrest⟩ := List.cons.inj h
        rw [ih hrest]

end Cuesheet.Script
