import Mathlib.Data.List.Infix
import Cuesheet.Proofs.Text.Line

/-!
Comments of a script.

Two slashes begin a comment, and a comment runs to the end of its line. `withoutComments` is a script
without them. A `Mode` says where a reader of the script stands, which is all that has to be known of
the text before: a line of code ends in a comment exactly if two slashes meet in it
(`modeAfter_eq_comment_iff`).
-/

namespace Cuesheet.Script

/-- The text without its comments, where the first line may begin inside of one. -/
def uncommented : (inside : Bool) → Text → Text
  | _, [] => []
  | true, c :: t => if c = '\n' then '\n' :: uncommented false t else uncommented true t
  | false, '/' :: '/' :: t => uncommented true t
  | false, c :: t => c :: uncommented false t

/-- The text without its comments; the ends of their lines stay. -/
def withoutComments (t : Text) : Text := uncommented false t

theorem uncommented_cons {c : Char} (hc : c ≠ '/') (t : Text) :
    uncommented false (c :: t) = c :: uncommented false t := by
  rw [uncommented]
  rintro t' rfl
  exact absurd rfl hc

theorem uncommented_slash {c : Char} (hc : c ≠ '/') (t : Text) :
    uncommented false ('/' :: c :: t) = '/' :: c :: uncommented false t := by
  rw [uncommented, uncommented_cons hc]
  intro t' _ he
  exact hc (List.cons.inj he).1

theorem withoutComments_of_no_slash {t : Text} (h : '/' ∉ t) : withoutComments t = t := by
  rw [withoutComments]
  induction t with
  | nil => rfl
  | cons c t ih =>
    have hc : c ≠ '/' := fun he => h (he ▸ List.mem_cons_self ..)
    rw [uncommented_cons hc, ih fun ht => h (List.mem_cons_of_mem c ht)]

/-- Where a reader of a script stands. -/
inductive Mode where
  | code
  /-- Right after a slash in code: one more begins a comment. -/
  | slash
  | comment
  deriving DecidableEq, Repr

namespace Mode

/-- Where the reader stands after one more character. -/
def next : Mode → Char → Mode
  | code, '/' => slash
  | code, _ => code
  | slash, '/' => comment
  | slash, _ => code
  | comment, '\n' => code
  | comment, _ => comment

@[simp] theorem next_break (m : Mode) : m.next '\n' = code := by cases m <;> rfl

@[simp] theorem next_code {c : Char} (h : c ≠ '/') : next code c = code := by
  simp [next]

@[simp] theorem next_slash {c : Char} (h : c ≠ '/') : next slash c = code := by
  simp [next]

@[simp] theorem next_comment {c : Char} (h : c ≠ '\n') : next comment c = comment := by
  simp [next]

end Mode

/-- Where a line leaves the reader that stops in a comment, or does not. -/
def Mode.ofComment (inside : Bool) : Mode := if inside then .comment else .code

/-- Where the reader stands after a text. -/
def modeAfter (m : Mode) (t : Text) : Mode := t.foldl Mode.next m

@[simp] theorem modeAfter_cons (m : Mode) (c : Char) (t : Text) :
    modeAfter m (c :: t) = modeAfter (m.next c) t := rfl

@[simp] theorem modeAfter_append (m : Mode) (t u : Text) :
    modeAfter m (t ++ u) = modeAfter (modeAfter m t) u := List.foldl_append

theorem modeAfter_comment {t : Text} (h : Text.Unbroken t) : modeAfter .comment t = .comment := by
  induction t with
  | nil => rfl
  | cons c t ih =>
    have hc : c ≠ '\n' := fun he => h (he ▸ List.mem_cons_self ..)
    rw [modeAfter_cons, Mode.next_comment hc, ih fun ht => h (List.mem_cons_of_mem c ht)]

theorem modeAfter_code {t : Text} (h : '/' ∉ t) : modeAfter .code t = .code := by
  induction t with
  | nil => rfl
  | cons c t ih =>
    have hc : c ≠ '/' := fun he => h (he ▸ List.mem_cons_self ..)
    rw [modeAfter_cons, Mode.next_code hc, ih fun ht => h (List.mem_cons_of_mem c ht)]

/-- No slash and no line feed occurs in the text, so no comment begins or ends in it. -/
structure Slashless (t : Text) : Prop where
  no_slash : '/' ∉ t
  unbroken : Text.Unbroken t

instance (t : Text) : Decidable (Slashless t) :=
  decidable_of_iff ('/' ∉ t ∧ Text.Unbroken t) ⟨fun h => ⟨h.1, h.2⟩, fun h => ⟨h.no_slash, h.unbroken⟩⟩

section

variable {t u : Text}

theorem Slashless.append (ht : Slashless t) (hu : Slashless u) : Slashless (t ++ u) :=
  ⟨List.not_mem_append ht.no_slash hu.no_slash, ht.unbroken.append hu.unbroken⟩

theorem Slashless.of_isInfix (h : Slashless t) (hu : u <:+: t) : Slashless u :=
  ⟨fun hc => h.no_slash (hu.mem hc), fun hc => h.unbroken (hu.mem hc)⟩

theorem Slashless.mode (h : Slashless t) : modeAfter .code t = .code := modeAfter_code h.no_slash

end

/-- A slash counts only if another follows. -/
theorem modeAfter_slash {t : Text} (h : '/' ∉ t) (hne : t ≠ []) : modeAfter .slash t = .code := by
  obtain ⟨c, t, rfl⟩ := List.exists_cons_of_ne_nil hne
  have hc : c ≠ '/' := fun he => h (he ▸ List.mem_cons_self ..)
  rw [modeAfter_cons, Mode.next_slash hc, modeAfter_code fun ht => h (List.mem_cons_of_mem c ht)]

/-- The semicolon after a closing parenthesis may be left out. -/
theorem modeAfter_of_semicolon {t : Text} (h : modeAfter .code (t ++ ");") = .code) :
    modeAfter .code (t ++ ")") = .code := by
  rw [modeAfter_append] at h ⊢
  revert h
  cases modeAfter .code t <;> decide

theorem modeAfter_join {sep : Text} (hsep : modeAfter .code sep = .code) {ts : List Text}
    (h : ∀ t ∈ ts, modeAfter .code t = .code) : modeAfter .code (Text.join sep ts) = .code := by
  induction ts with
  | nil => rfl
  | cons t ts ih =>
    obtain ⟨ht, hts⟩ := List.forall_mem_cons.mp h
    cases ts with
    | nil => exact ht
    | cons u us => rw [Text.join, modeAfter_append, modeAfter_append, ht, hsep, ih hts]

/-- Of texts one below the other, the last one decides. -/
theorem modeAfter_stack_cons {ts : List Text} (h : ts ≠ []) (m : Mode) (t : Text) :
    modeAfter m (Text.stack (t :: ts)) = modeAfter .code (Text.stack ts) := by
  rw [Text.stack_cons h, modeAfter_append, modeAfter_cons, Mode.next_break]

theorem modeAfter_stack {m : Mode} {ts : List Text} (hne : ts ≠ [])
    (h : ∀ t ∈ ts, modeAfter .code t = m) : modeAfter .code (Text.stack ts) = m := by
  induction ts with
  | nil => exact absurd rfl hne
  | cons t ts ih =>
    obtain ⟨ht, hts⟩ := List.forall_mem_cons.mp h
    by_cases hnil : ts = []
    · subst hnil
      exact ht
    · rw [modeAfter_stack_cons hnil, ih hnil hts]

theorem slashes_infix_cons_iff {c : Char} (hc : c ≠ '/') {t : Text} :
    ("//" : Text) <:+: c :: t ↔ ("//" : Text) <:+: t := by
  rw [List.infix_cons_iff]
  exact or_iff_right fun h => hc (List.cons_prefix_cons.mp h).1.symm

/-- The two ways to come upon a comment: from code, and with its first slash just read. -/
theorem modeAfter_eq_comment {t : Text} (h : Text.Unbroken t) :
    (modeAfter .code t = .comment ↔ ("//" : Text) <:+: t) ∧
      (modeAfter .slash t = .comment ↔ ("//" : Text) <:+: '/' :: t) := by
  induction t with
  | nil => exact ⟨by decide, by decide⟩
  | cons c t ih =>
    have hrest : Text.Unbroken t := fun ht => h (List.mem_cons_of_mem c ht)
    obtain ⟨hcode, hslash⟩ := ih hrest
    by_cases hc : c = '/'
    · subst hc
      refine ⟨hslash, iff_of_true (modeAfter_comment hrest) ?_⟩
      exact (List.prefix_append ['/', '/'] t).isInfix
    · rw [modeAfter_cons, modeAfter_cons, Mode.next_code hc, Mode.next_slash hc, hcode,
        slashes_infix_cons_iff hc]
      refine ⟨Iff.rfl, ?_⟩
      rw [List.infix_cons_iff, slashes_infix_cons_iff hc, iff_comm]
      refine or_iff_right fun hprefix => ?_
      exact hc (List.cons_prefix_cons.mp (List.cons_prefix_cons.mp hprefix).2).1.symm

/-- **A line of code ends in a comment exactly if it holds two slashes in a row.** -/
theorem modeAfter_eq_comment_iff {t : Text} (h : Text.Unbroken t) :
    modeAfter .code t = .comment ↔ ("//" : Text) <:+: t := (modeAfter_eq_comment h).1

end Cuesheet.Script
