import Mathlib.Data.List.Infix
import Cuesheet.Text.Line

/-!
Lines of a text.

A text is empty, or one line without a break, or a line, a line feed and a text again. `line_induction`
follows that form, and `lines` is told by it: a line before a line feed loses a last carriage return
(`chomp`), and what follows the last line feed is a line as it is. Texts that end within a line keep
their lines when they are put one below the other (`EndsInLine.lines_append`).
-/

namespace Cuesheet.Text

/-- What is asked of every character of a text is tested character by character. -/
instance decidableForallMem (p : Char → Prop) [DecidablePred p] (t : Text) :
    Decidable (∀ c ∈ t, p c) := List.decidableBAll p t

/-- No line feed occurs in the text. -/
def Unbroken (t : Text) : Prop := '\n' ∉ t

instance (t : Text) : Decidable (Unbroken t) := inferInstanceAs (Decidable (_ ∉ _))

theorem Unbroken.append {t u : Text} (ht : Unbroken t) (hu : Unbroken u) : Unbroken (t ++ u) :=
  List.not_mem_append ht hu

/-- A text without the carriage return that may end it. -/
def chomp : Text → Text
  | [] => []
  | c :: t => if c = '\r' ∧ t = [] then [] else c :: chomp t

/-- A text is its chomped self, or that and a carriage return. -/
theorem chomp_cases (t : Text) : t = chomp t ∨ t = chomp t ++ ['\r'] := by
  induction t with
  | nil => exact .inl rfl
  | cons c t ih =>
    rw [chomp]
    split
    next h =>
      obtain ⟨rfl, rfl⟩ := h
      exact .inr rfl
    next => exact ih.imp (congrArg (c :: ·)) (congrArg (c :: ·))

theorem chomp_isPrefix (t : Text) : chomp t <+: t := by
  rcases chomp_cases t with h | h
  · exact ⟨[], by rw [List.append_nil, ← h]⟩
  · exact ⟨['\r'], h.symm⟩

theorem line_induction {motive : Text → Prop} (nil : motive [])
    (last : ∀ l : Text, l ≠ [] → Unbroken l → motive l)
    (more : ∀ l t : Text, Unbroken l → motive t → motive (l ++ '\n' :: t)) (t : Text) : motive t := by
  induction hn : t.length using Nat.strongRecOn generalizing t with
  | _ n ih =>
    by_cases hbreak : '\n' ∈ t
    · obtain ⟨l, rest, rfl, hl⟩ := List.eq_append_cons_of_mem hbreak
      refine more l rest hl (ih rest.length ?_ rest rfl)
      simp only [List.length_append, List.length_cons] at hn
      omega
    · by_cases hnil : t = []
      · exact hnil ▸ nil
      · exact last t hnil hbreak

/-! ### Lines as they are told apart -/

theorem lines_cons {c d : Char} {t : Text} (hc : c ≠ '\n') (hd : d ≠ '\n') :
    lines (c :: d :: t) =
      match lines (d :: t) with
      | [] => [[c]]
      | l :: ls => (c :: l) :: ls := by
  conv => lhs; unfold lines
  split
  next h => exact absurd h (List.cons_ne_nil _ _)
  next h => exact absurd (List.cons.inj h).1 hc
  next h => exact absurd (List.cons.inj (List.cons.inj h).2).1 hd
  next h =>
    obtain ⟨rfl, rfl⟩ := List.cons.inj h
    rfl

/-- A text without a line feed is one line. -/
theorem lines_of_unbroken {l : Text} (hl : Unbroken l) (hne : l ≠ []) : lines l = [l] := by
  induction l with
  | nil => exact absurd rfl hne
  | cons c l ih =>
    have hc : c ≠ '\n' := fun h => hl (h ▸ List.mem_cons_self ..)
    cases l with
    | nil => simp [lines]
    | cons d l =>
      have hrest : Unbroken (d :: l) := fun h => hl (List.mem_cons_of_mem c h)
      have hd : d ≠ '\n' := fun h => hrest (h ▸ List.mem_cons_self ..)
      rw [lines_cons hc hd, ih hrest (List.cons_ne_nil d l)]

/-- A line feed ends a line. -/
theorem lines_append_break {l : Text} (hl : Unbroken l) (t : Text) :
    lines (l ++ '\n' :: t) = chomp l :: lines t := by
  induction l with
  | nil => simp [lines, chomp]
  | cons c l ih =>
    have hc : c ≠ '\n' := fun h => hl (h ▸ List.mem_cons_self ..)
    have hrest : Unbroken l := fun h => hl (List.mem_cons_of_mem c h)
    cases l with
    | nil =>
      by_cases hcr : c = '\r'
      · subst hcr
        simp [lines, chomp]
      · simp [lines, chomp, hcr]
    | cons d l =>
      have hd : d ≠ '\n' := fun h => hrest (h ▸ List.mem_cons_self ..)
      have hkeep : chomp (c :: d :: l) = c :: chomp (d :: l) := by
        rw [chomp, if_neg fun h => List.cons_ne_nil d l h.2]
      rw [hkeep, List.cons_append, List.cons_append, lines_cons hc hd, ← List.cons_append, ih hrest]

/-- No line holds a line feed. -/
theorem unbroken_of_mem_lines {t l : Text} (h : l ∈ lines t) : Unbroken l := by
  induction t using line_induction with
  | nil => exact absurd h List.not_mem_nil
  | last t hne ht =>
    rw [lines_of_unbroken ht hne, List.mem_singleton] at h
    exact h ▸ ht
  | more l' t hl' ih =>
    rw [lines_append_break hl', List.mem_cons] at h
    rcases h with rfl | h
    · exact fun hmem => hl' ((chomp_isPrefix l').mem hmem)
    · exact ih h

/-- What follows the last line feed is the last line. -/
theorem getLast?_lines_append_break {l : Text} (hl : Unbroken l) (hne : l ≠ []) (t : Text) :
    (lines (t ++ '\n' :: l)).getLast? = some l := by
  induction t using line_induction with
  | nil => rw [List.nil_append, ← List.nil_append ('\n' :: l), lines_append_break List.not_mem_nil,
      lines_of_unbroken hl hne]; rfl
  | last t _ ht => rw [lines_append_break ht, lines_of_unbroken hl hne]; rfl
  | more l' t hl' ih =>
    rw [List.append_assoc, List.cons_append, lines_append_break hl', List.getLast?_cons, ih]
    rfl

/-- A text is its last line, or that after a line feed. -/
theorem exists_lastLine (t : Text) :
    ∃ l, Unbroken l ∧ (t = l ∨ ∃ u, t = u ++ '\n' :: l) := by
  induction t using line_induction with
  | nil => exact ⟨[], List.not_mem_nil, .inl rfl⟩
  | last t _ ht => exact ⟨t, ht, .inl rfl⟩
  | more l' t _ ih =>
    obtain ⟨l, hl, rfl | ⟨u, rfl⟩⟩ := ih
    · exact ⟨t, hl, .inr ⟨l', rfl⟩⟩
    · exact ⟨l, hl, .inr ⟨l' ++ '\n' :: u, by rw [List.append_assoc, List.cons_append]⟩⟩

/-- A text that is not empty has a line. -/
theorem lines_ne_nil {t : Text} (h : t ≠ []) : lines t ≠ [] := by
  induction t using line_induction with
  | nil => exact absurd rfl h
  | last t hne ht => rw [lines_of_unbroken ht hne]; exact List.cons_ne_nil t []
  | more l t hl _ => rw [lines_append_break hl]; exact List.cons_ne_nil _ _

/-! ### Texts that end within a line -/

/-- The text ends with a character that is no part of the end of a line. -/
def EndsInLine (t : Text) : Prop := ∃ c ∈ t.getLast?, c ≠ '\n' ∧ c ≠ '\r'

theorem EndsInLine.ne_nil {t : Text} (h : EndsInLine t) : t ≠ [] := by
  rintro rfl
  obtain ⟨c, hc, -⟩ := h
  cases hc

theorem EndsInLine.after_break {l t : Text} (h : EndsInLine (l ++ '\n' :: t)) : EndsInLine t := by
  obtain ⟨c, hc, hbreak, hreturn⟩ := h
  rw [List.getLast?_append, List.getLast?_cons, Option.some_or, Option.mem_some] at hc
  cases hlast : t.getLast? with
  | none =>
    rw [hlast] at hc
    exact absurd hc.symm hbreak
  | some d =>
    rw [hlast] at hc
    obtain rfl : d = c := hc
    exact ⟨d, hlast, hbreak, hreturn⟩

/-- A line that does not end in a carriage return loses nothing. -/
theorem EndsInLine.chomp {t : Text} (h : EndsInLine t) : chomp t = t := by
  obtain ⟨c, hc, -, hreturn⟩ := h
  rcases chomp_cases t with he | he
  · exact he.symm
  · rw [he, List.getLast?_concat, Option.mem_some] at hc
    exact absurd hc.symm hreturn

/-- What ends within a line keeps its lines when others follow on the next one. -/
theorem EndsInLine.lines_append {t : Text} (h : EndsInLine t) (u : Text) :
    lines (t ++ '\n' :: u) = lines t ++ lines u := by
  induction t using line_induction with
  | nil => exact absurd rfl h.ne_nil
  | last t hne ht => rw [lines_append_break ht, lines_of_unbroken ht hne, h.chomp]; rfl
  | more l t hl ih =>
    rw [List.append_assoc, List.cons_append, lines_append_break hl, lines_append_break hl,
      ih h.after_break]
    rfl

/-! ### Texts one below the other -/

theorem not_mem_join {c : Char} {sep : Text} (hsep : c ∉ sep) {ts : List Text} (h : ∀ t ∈ ts, c ∉ t) :
    c ∉ join sep ts := by
  induction ts with
  | nil => exact List.not_mem_nil
  | cons t ts ih =>
    obtain ⟨ht, hts⟩ := List.forall_mem_cons.mp h
    cases ts with
    | nil => exact ht
    | cons u us => exact List.not_mem_append (List.not_mem_append ht hsep) (ih hts)

/-- Texts stay whole when they are joined. -/
theorem isInfix_join (sep : Text) {t : Text} {ts : List Text} (h : t ∈ ts) : t <:+: join sep ts := by
  induction ts with
  | nil => exact absurd h List.not_mem_nil
  | cons u us ih =>
    cases us with
    | nil => exact List.mem_singleton.mp h ▸ List.infix_rfl
    | cons v vs =>
      rcases List.mem_cons.mp h with rfl | h
      · exact ⟨[], sep ++ join sep (v :: vs), (List.append_assoc ..).symm⟩
      · exact (ih h).trans (List.suffix_append (u ++ sep) _).isInfix

theorem stack_cons {t : Text} {ts : List Text} (h : ts ≠ []) :
    stack (t :: ts) = t ++ '\n' :: stack ts := by
  obtain ⟨u, us, rfl⟩ := List.exists_cons_of_ne_nil h
  show t ++ "\n" ++ stack (u :: us) = _
  rw [List.append_assoc]
  rfl

theorem stack_append {ts us : List Text} (hts : ts ≠ []) (hus : us ≠ []) :
    stack (ts ++ us) = stack ts ++ '\n' :: stack us := by
  induction ts with
  | nil => exact absurd rfl hts
  | cons t ts ih =>
    by_cases hnil : ts = []
    · subst hnil
      exact stack_cons hus
    · rw [List.cons_append, stack_cons (List.append_ne_nil_of_left_ne_nil hnil us), stack_cons hnil,
        ih hnil, List.append_assoc, List.cons_append]

theorem stack_eq_nil_iff {ts : List Text} : stack ts = [] ↔ ts = [] ∨ ts = [[]] := by
  cases ts with
  | nil => simp [stack, join]
  | cons t ts =>
    cases ts with
    | nil => simp [stack, join]
    | cons u us => simp [stack_cons]

/-- Stacks one below the other are one stack of all their texts, unless one of them is empty. -/
theorem stack_flatten {tss : List (List Text)} (h : ∀ ts ∈ tss, ts ≠ []) :
    stack (tss.map stack) = stack tss.flatten := by
  induction tss with
  | nil => rfl
  | cons ts tss ih =>
    obtain ⟨hts, htss⟩ := List.forall_mem_cons.mp h
    cases tss with
    | nil =>
      rw [List.flatten_singleton]
      rfl
    | cons us uss =>
      have hus : us ≠ [] := htss us (List.mem_cons_self ..)
      have hrest : (us :: uss).flatten ≠ [] := by
        rw [List.flatten_cons]
        exact List.append_ne_nil_of_left_ne_nil hus _
      rw [List.map_cons, stack_cons (by simp), ih htss, List.flatten_cons (l := ts),
        stack_append hts hrest]

/-- Texts that end within a line are moved right together as they are one by one. -/
theorem indent_stack {ts : List Text} (h : ∀ t ∈ ts, EndsInLine t) :
    indent (stack ts) = stack (ts.map indent) := by
  induction ts with
  | nil => rfl
  | cons t ts ih =>
    obtain ⟨ht, hts⟩ := List.forall_mem_cons.mp h
    cases ts with
    | nil => rfl
    | cons u us =>
      have hu : EndsInLine u := hts u (List.mem_cons_self ..)
      have hbelow : stack (u :: us) ≠ [] := by
        intro hnil
        cases us with
        | nil => exact hu.ne_nil hnil
        | cons v vs => simp [stack_cons] at hnil
      have hfirst : (lines t).map (("  " : Text) ++ ·) ≠ [] := by simpa using lines_ne_nil ht.ne_nil
      have hrest : (lines (stack (u :: us))).map (("  " : Text) ++ ·) ≠ [] := by
        simpa using lines_ne_nil hbelow
      rw [stack_cons (List.cons_ne_nil u us), indent, ht.lines_append, List.map_append,
        stack_append hfirst hrest, ← indent, ← indent, ih hts]
      exact (stack_cons (List.cons_ne_nil u.indent (us.map indent))).symm

theorem stack_eq_intercalate (ts : List Text) : stack ts = List.intercalate ['\n'] ts := by
  induction ts with
  | nil => rfl
  | cons t ts ih =>
    cases ts with
    | nil => simp [stack, join]
    | cons u us => rw [stack_cons (List.cons_ne_nil u us), ih, List.intercalate_cons_cons,
        List.append_assoc]; rfl

/-- **Cut at its line feeds, a stack is the texts again** that were put one below the other. -/
theorem splitOn_stack {ts : List Text} (hne : ts ≠ []) (h : ∀ t ∈ ts, Unbroken t) :
    (stack ts).splitOn '\n' = ts := by
  rw [stack_eq_intercalate]
  exact List.splitOn_intercalate '\n' h hne

/-- What begins every one of the texts begins every line of their stack. -/
theorem isPrefix_of_mem_lines_stack {lead : Text} (hlead : '\r' ∉ lead) {ts : List Text}
    (h : ∀ t ∈ ts, Unbroken t ∧ lead <+: t) {l : Text} (hl : l ∈ lines (stack ts)) : lead <+: l := by
  induction ts with
  | nil => exact absurd hl List.not_mem_nil
  | cons t ts ih =>
    obtain ⟨⟨hunbroken, hprefix⟩, hts⟩ := List.forall_mem_cons.mp h
    by_cases hnil : ts = []
    · subst hnil
      by_cases ht : t = []
      · subst ht
        exact absurd hl List.not_mem_nil
      · rw [show stack [t] = t from rfl, lines_of_unbroken hunbroken ht, List.mem_singleton] at hl
        exact hl ▸ hprefix
    · rw [stack_cons hnil, lines_append_break hunbroken, List.mem_cons] at hl
      rcases hl with rfl | hl
      · -- the carriage return that a line may lose is not part of the lead
        rcases chomp_cases t with he | he
        · exact he ▸ hprefix
        · rw [he, List.prefix_concat_iff] at hprefix
          refine hprefix.resolve_left fun hwhole => hlead ?_
          rw [hwhole]
          simp
      · exact ih hts hl

end Cuesheet.Text
