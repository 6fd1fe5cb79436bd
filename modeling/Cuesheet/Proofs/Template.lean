import Cuesheet.Template
import Cuesheet.Proofs.Script.Bracket

/-!
Filled templates.

Filling goes from the left: a mark at the front gives way to its filling, and any other character
stays (`marked_induction`, with `fill_mark` and `fill_cons`). A mark closes the brace it opens, so a
tidy template stays tidy under tidy fillings.
-/

namespace Cuesheet

namespace Text

variable {mark : Text}

theorem fillFrom_skip (mark filling : Text) (skip : Nat) (t : Text) :
    fillFrom mark filling skip t = fill mark filling (t.drop skip) := by
  induction skip generalizing t with
  | zero => rfl
  | succ skip ih =>
    cases t with
    | nil => rfl
    | cons c t => exact ih t

theorem fill_mark (hmark : mark ≠ []) (filling t : Text) :
    fill mark filling (mark ++ t) = filling ++ fill mark filling t := by
  obtain ⟨c, m, rfl⟩ := List.exists_cons_of_ne_nil hmark
  have hafter : after? (c :: m) (c :: (m ++ t)) = some t := after?_append (c :: m) t
  rw [fill, List.cons_append, fillFrom, hafter]
  simp only [fillFrom_skip, List.length_cons, Nat.add_sub_cancel, List.drop_left]

theorem fill_cons {c : Char} {t : Text} (h : ¬ mark <+: c :: t) (filling : Text) :
    fill mark filling (c :: t) = c :: fill mark filling t := by
  have hafter : after? mark (c :: t) = none := by
    rw [Option.eq_none_iff_forall_not_mem]
    intro rest hrest
    exact h ⟨rest, (eq_append_of_after? hrest).symm⟩
  rw [fill, fillFrom, hafter]
  rfl

theorem marked_induction (hmark : mark ≠ []) {motive : Text → Prop} (nil : motive [])
    (marked : ∀ t, motive t → motive (mark ++ t))
    (other : ∀ c t, ¬ mark <+: c :: t → motive t → motive (c :: t)) (t : Text) : motive t := by
  induction hn : t.length using Nat.strongRecOn generalizing t with
  | _ n ih =>
    by_cases hprefix : mark <+: t
    · obtain ⟨rest, rfl⟩ := hprefix
      refine marked rest (ih rest.length ?_ rest rfl)
      have := List.length_pos_iff.mpr hmark
      rw [List.length_append] at hn
      omega
    · cases t with
      | nil => exact nil
      | cons c t => exact other c t hprefix (ih t.length (hn ▸ Nat.lt_succ_self _) t rfl)

/-- What is in a filled text was in it before or was filled in. -/
theorem mem_fill (hmark : mark ≠ []) {filling t : Text} {c : Char} (h : c ∈ fill mark filling t) :
    c ∈ filling ∨ c ∈ t := by
  induction t using marked_induction hmark with
  | nil => exact absurd h List.not_mem_nil
  | marked t ih =>
    rw [fill_mark hmark, List.mem_append] at h
    rcases h with h | h
    · exact .inl h
    · exact (ih h).imp_right (List.mem_append_right mark)
  | other d t hd ih =>
    rw [fill_cons hd, List.mem_cons] at h
    rcases h with rfl | h
    · exact .inr (List.mem_cons_self ..)
    · exact (ih h).imp_right (List.mem_cons_of_mem d)

/-- A character that the mark does not hold outlasts the filling. -/
theorem mem_fill_of_mem (hmark : mark ≠ []) {c : Char} (hc : c ∉ mark) (filling : Text) {t : Text}
    (h : c ∈ t) : c ∈ fill mark filling t := by
  induction t using marked_induction hmark with
  | nil => exact absurd h List.not_mem_nil
  | marked t ih =>
    rw [fill_mark hmark]
    exact List.mem_append_right _ (ih ((List.mem_append.mp h).resolve_left hc))
  | other d t hd ih =>
    rw [fill_cons hd]
    rcases List.mem_cons.mp h with rfl | h
    · exact List.mem_cons_self ..
    · exact List.mem_cons_of_mem d (ih h)

/-- Nothing is left only of nothing, or where marks give way to nothing. -/
theorem eq_nil_of_fill_eq_nil (hmark : mark ≠ []) {filling t : Text} (h : fill mark filling t = []) :
    t = [] ∨ filling = [] := by
  induction t using marked_induction hmark with
  | nil => exact .inl rfl
  | marked t _ =>
    rw [fill_mark hmark] at h
    exact .inr (List.append_eq_nil_iff.mp h).1
  | other c t hc _ =>
    rw [fill_cons hc] at h
    exact absurd h (List.cons_ne_nil _ _)

/-- A text without a mark is passed over, if no mark can begin in it and end behind it. -/
theorem fill_append {a : Text} (ha : ¬ mark <:+: a) (hlast : ∀ c ∈ a.getLast?, c ∉ mark)
    (filling b : Text) : fill mark filling (a ++ b) = a ++ fill mark filling b := by
  induction a with
  | nil => rfl
  | cons c a ih =>
    have hfront : ¬ mark <+: c :: (a ++ b) := by
      intro h
      rcases List.prefix_or_prefix_of_prefix h (List.prefix_append (c :: a) b) with hwithin | hover
      · exact ha hwithin.isInfix
      · have hmem := List.getLast_mem (List.cons_ne_nil c a)
        exact hlast _ (List.getLast?_eq_some_getLast (List.cons_ne_nil c a)) (hover.mem hmem)
    rw [List.infix_cons_iff, not_or] at ha
    have hrest : ∀ d ∈ a.getLast?, d ∉ mark := by
      intro d hd
      apply hlast d
      rw [Option.mem_def] at hd
      rw [List.getLast?_cons, hd]
      rfl
    rw [List.cons_append, fill_cons hfront, ih ha.2 hrest, List.cons_append]

/-- A text without a mark stays as it is. -/
theorem fill_of_not_isInfix {filling t : Text} (h : ¬ mark <:+: t) : fill mark filling t = t := by
  induction t with
  | nil => rfl
  | cons c t ih =>
    rw [List.infix_cons_iff, not_or] at h
    rw [fill_cons h.1, ih h.2]

end Text

namespace Script

/-- A mark gives way to a text that closes as much as it does. -/
theorem awaitedFrom_fill {mark filling t : Text} (hne : mark ≠ []) (hmark : Expression mark)
    (hfilling : Expression filling) (ht : '/' ∉ t) (a : List Char) :
    awaitedFrom .code a (Text.fill mark filling t) = awaitedFrom .code a t := by
  induction t using Text.marked_induction hne generalizing a with
  | nil => rfl
  | marked t ih =>
    rw [Text.fill_mark hne, awaitedFrom_append, awaitedFrom_append, (hfilling a).awaited,
      (hfilling a).mode, (hmark a).awaited, (hmark a).mode]
    exact ih (fun h => ht (List.mem_append_right mark h)) a
  | other c t hc ih =>
    have hslash : c ≠ '/' := fun h => ht (h ▸ List.mem_cons_self ..)
    rw [Text.fill_cons hc, awaitedFrom_cons (by decide), awaitedFrom_cons (by decide),
      Mode.next_code hslash]
    simp only [ih fun h => ht (List.mem_cons_of_mem c h)]

theorem tidy_mark : ∀ p : Placeholder, p.mark ≠ [] ∧ Tidy p.mark
  | .locator => by decide
  | .selector => by decide
  | .value => by decide

theorem Tidy.fill {filling t : Text} (ht : Tidy t) (hfilling : Tidy filling) (p : Placeholder) :
    Tidy (Text.fill p.mark filling t) := by
  obtain ⟨hne, hmark⟩ := tidy_mark p
  refine Expression.tidy (fun a => ⟨modeAfter_code fun h => ?_, ?_⟩) fun c hc => ?_
  · exact (Text.mem_fill hne h).elim hfilling.slashless.no_slash ht.slashless.no_slash
  · rw [awaitedFrom_fill hne hmark.expression hfilling.expression ht.slashless.no_slash, (ht.expression a).awaited]
  · exact (Text.mem_fill hne hc).elim (hfilling.plain c) (ht.plain c)

/-- **A tidy template is tidy when it is filled**, even where a filling holds a mark itself. -/
theorem Tidy.render {template locator selector : Text} {value : Option Text} (h : Tidy template)
    (hlocator : Tidy locator) (hselector : Tidy selector) (hvalue : ∀ v ∈ value, Tidy v) :
    Tidy (Template.render template locator selector value) := by
  have hline := (h.fill hlocator .locator).fill hselector .selector
  cases value with
  | none => exact hline
  | some v => exact hline.fill (hvalue v rfl) .value

end Script

/-- A template that leaves nothing open is the line itself. -/
theorem Template.render_of_unmarked {template : Text} (h : ∀ p : Placeholder, ¬ p.mark <:+: template)
    (locator selector : Text) (value : Option Text) :
    Template.render template locator selector value = template := by
  unfold Template.render
  rw [Text.fill_of_not_isInfix (h .locator), Text.fill_of_not_isInfix (h .selector)]
  cases value with
  | none => rfl
  | some v => exact Text.fill_of_not_isInfix (h .value)

end Cuesheet
