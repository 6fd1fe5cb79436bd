import Cuesheet.Proofs.Template

/-!
Templates, filled at once.

Reading a template once from the left cuts it into pieces: marks and the characters between them
(`pieces`). No mark begins within another, so every mark in the template is a piece
(`pieces_append_mark`). Filling the placeholders one after the other, each in the whole line, comes to
filling the pieces (`render_at_once`), if what is put in first stands apart from all marks: no mark can
begin in it, end in it or go through it (`Apart`).
-/

namespace Cuesheet

namespace Placeholder

def all : List Placeholder := [locator, selector, value]

/-- Between its braces a mark has letters only. -/
theorem exists_name (p : Placeholder) : ∃ name : Text,
    p.mark = '\x7b' :: (name ++ ['\x7d']) ∧ ∀ c ∈ name, c.isLower = true := by
  cases p with
  | locator => exact ⟨"locator", rfl, by decide⟩
  | selector => exact ⟨"selector", rfl, by decide⟩
  | value => exact ⟨"value", rfl, by decide⟩

theorem mark_ne_nil (p : Placeholder) : p.mark ≠ [] := by
  obtain ⟨name, hmark, -⟩ := p.exists_name
  exact hmark ▸ List.cons_ne_nil _ _

/-- A mark opens a brace at its front only. -/
theorem exists_tail (p : Placeholder) : ∃ tail : Text, p.mark = '\x7b' :: tail ∧ '\x7b' ∉ tail := by
  obtain ⟨name, hmark, hname⟩ := p.exists_name
  refine ⟨name ++ ['\x7d'], hmark, List.not_mem_append (fun h => ?_) (by decide)⟩
  exact absurd (hname _ h) (by decide)

/-- The placeholder whose mark a text begins with. -/
def at? (t : Text) : Option Placeholder := all.find? fun p => p.mark.isPrefixOf t

theorem at?_mark (p : Placeholder) (t : Text) : at? (p.mark ++ t) = some p := by
  cases p <;> rfl

theorem at?_eq_none_iff {t : Text} : at? t = none ↔ ∀ p : Placeholder, ¬ p.mark <+: t := by
  have hmem : ∀ p : Placeholder, p ∈ all := by intro p; cases p <;> decide
  simp [at?, List.find?_eq_none, hmem]

theorem mark_prefix_of_at? {p : Placeholder} {t : Text} (h : at? t = some p) : p.mark <+: t := by
  have hprefix : p.mark.isPrefixOf t = true :=
    List.find?_some (p := fun p : Placeholder => p.mark.isPrefixOf t) h
  exact List.isPrefixOf_iff_prefix.mp hprefix

/-- No other mark begins where a mark does. -/
theorem not_prefix_of_ne {p q : Placeholder} (h : p ≠ q) (t : Text) : ¬ q.mark <+: p.mark ++ t := by
  rintro ⟨rest, hrest⟩
  have hsame := congrArg at? hrest
  rw [at?_mark, at?_mark] at hsame
  exact h (Option.some.inj hsame).symm

/-- A mark does not begin before another and end within it. -/
theorem not_prefix_append_mark {c : Char} {t : Text} (h : ∀ p : Placeholder, ¬ p.mark <+: c :: t)
    (p q : Placeholder) (rest : Text) : ¬ q.mark <+: c :: t ++ (p.mark ++ rest) := by
  intro hq
  rcases List.prefix_or_prefix_of_prefix hq (List.prefix_append _ _) with hwithin | ⟨spill, hspill⟩
  · exact h q hwithin
  · obtain ⟨tail, htail, hbrace⟩ := q.exists_tail
    cases spill with
    | nil => exact h q ⟨[], by rw [List.append_nil, ← hspill, List.append_nil]⟩
    | cons d spill =>
      -- What of the mark reaches over begins with the brace of the mark behind.
      obtain ⟨inner, hinner, -⟩ := p.exists_tail
      rw [← hspill, List.prefix_append_right_inj, hinner, List.cons_append,
        List.cons_prefix_cons] at hq
      rw [htail, List.cons_append] at hspill
      obtain ⟨-, hrest⟩ := List.cons.inj hspill
      exact hbrace (hrest ▸ hq.1 ▸ List.mem_append_right t (List.mem_cons_self ..))

end Placeholder

/-! ### Pieces -/

namespace Template

inductive Piece where
  /-- A placeholder. -/
  | opening (p : Placeholder)
  /-- A character that stays. -/
  | char (c : Char)
  deriving DecidableEq, Repr

/-- The pieces of a template, after `skip` more characters that belong to a mark already read. -/
def piecesFrom : (skip : Nat) → Text → List Piece
  | _, [] => []
  | skip + 1, _ :: t => piecesFrom skip t
  | 0, c :: t =>
    match Placeholder.at? (c :: t) with
    | some p => .opening p :: piecesFrom (p.mark.length - 1) t
    | none => .char c :: piecesFrom 0 t

/-- The pieces of a template, read once from the left. -/
def pieces (template : Text) : List Piece := piecesFrom 0 template

/-- The text put for a piece; a placeholder that nothing is put for keeps its mark. -/
def put (filling : Placeholder → Option Text) : Piece → Text
  | .opening p => (filling p).getD p.mark
  | .char c => [c]

/-- A template with all its placeholders filled at once. -/
def fillPieces (filling : Placeholder → Option Text) (template : Text) : Text :=
  (pieces template).flatMap (put filling)

theorem piecesFrom_skip (skip : Nat) (t : Text) : piecesFrom skip t = pieces (t.drop skip) := by
  induction skip generalizing t with
  | zero => rfl
  | succ skip ih =>
    cases t with
    | nil => rfl
    | cons c t => exact ih t

theorem pieces_mark (p : Placeholder) (t : Text) : pieces (p.mark ++ t) = .opening p :: pieces t := by
  obtain ⟨tail, hmark, -⟩ := p.exists_tail
  have hat := p.at?_mark t
  rw [hmark, List.cons_append] at hat
  rw [hmark, pieces, List.cons_append, piecesFrom, hat]
  simp only [piecesFrom_skip, hmark, List.length_cons, Nat.add_sub_cancel, List.drop_left]

theorem pieces_cons {c : Char} {t : Text} (h : ∀ p : Placeholder, ¬ p.mark <+: c :: t) :
    pieces (c :: t) = .char c :: pieces t := by
  rw [pieces, piecesFrom, Placeholder.at?_eq_none_iff.mpr h]
  rfl

/-- A template is empty, begins with a mark or begins with a character that stays. -/
theorem piece_induction {motive : Text → Prop} (nil : motive [])
    (mark : ∀ (p : Placeholder) t, motive t → motive (p.mark ++ t))
    (char : ∀ c t, (∀ p : Placeholder, ¬ p.mark <+: c :: t) → motive t → motive (c :: t))
    (template : Text) : motive template := by
  induction hn : template.length using Nat.strongRecOn generalizing template with
  | _ n ih =>
    cases template with
    | nil => exact nil
    | cons c t =>
      cases hat : Placeholder.at? (c :: t) with
      | none =>
        have hlt : t.length < n := hn ▸ Nat.lt_succ_self _
        exact char c t (Placeholder.at?_eq_none_iff.mp hat) (ih _ hlt t rfl)
      | some p =>
        obtain ⟨rest, hrest⟩ := Placeholder.mark_prefix_of_at? hat
        rw [← hrest] at hn ⊢
        have hpos := List.length_pos_iff.mpr p.mark_ne_nil
        rw [List.length_append] at hn
        exact mark p rest (ih _ (by omega) rest rfl)

/-- Every mark in a template is a piece, whatever stands before and behind it. -/
theorem pieces_append_mark (before : Text) (p : Placeholder) (behind : Text) :
    pieces (before ++ (p.mark ++ behind)) = pieces before ++ .opening p :: pieces behind := by
  induction before using piece_induction with
  | nil => exact pieces_mark p behind
  | mark q t ih => rw [List.append_assoc, pieces_mark, pieces_mark, ih, List.cons_append]
  | char c t hc ih =>
    have hwhole : ∀ q : Placeholder, ¬ q.mark <+: c :: (t ++ (p.mark ++ behind)) :=
      fun q => Placeholder.not_prefix_append_mark hc p q behind
    rw [List.cons_append, pieces_cons hwhole, pieces_cons hc, ih, List.cons_append]

end Template

/-! ### Filling in turn -/

/-- A text that stands apart from all marks: it has no brace, and some character that no mark has. -/
structure Apart (t : Text) : Prop where
  no_open : '\x7b' ∉ t
  no_close : '\x7d' ∉ t
  exists_other : ∃ c ∈ t, c.isLower = false

/-- What is left of a mark does not begin with a text that stands apart. -/
theorem Apart.not_prefix {t name : Text} (h : Apart t) (hname : ∀ c ∈ name, c.isLower = true)
    (rest : Text) : ¬ name ++ ['\x7d'] <+: t ++ rest := by
  intro hprefix
  rcases List.prefix_or_prefix_of_prefix hprefix (List.prefix_append t rest) with hin | hover
  · exact h.no_close (hin.mem (List.mem_append_right name (List.mem_singleton_self _)))
  · obtain ⟨c, hc, hother⟩ := h.exists_other
    rcases List.mem_append.mp (hover.mem hc) with hmem | hmem
    · exact Bool.noConfusion ((hname c hmem).symm.trans hother)
    · exact h.no_close (List.mem_singleton.mp hmem ▸ hc)

namespace Text

/-- Filling passes over a text in which no mark can begin. -/
theorem fill_append_of_no_open {a : Text} (ha : '\x7b' ∉ a) (p : Placeholder) (filling t : Text) :
    fill p.mark filling (a ++ t) = a ++ fill p.mark filling t := by
  obtain ⟨tail, hmark, -⟩ := p.exists_tail
  induction a with
  | nil => rfl
  | cons c a ih =>
    have hfront : ¬ p.mark <+: c :: (a ++ t) := by
      intro h
      rw [hmark, List.cons_prefix_cons] at h
      exact ha (h.1 ▸ List.mem_cons_self ..)
    rw [List.cons_append, fill_cons hfront, ih fun h => ha (List.mem_cons_of_mem c h),
      List.cons_append]

/-- Filling passes over the mark of another placeholder. -/
theorem fill_append_of_ne {p q : Placeholder} (h : p ≠ q) (filling t : Text) :
    fill q.mark filling (p.mark ++ t) = p.mark ++ fill q.mark filling t := by
  have hfront := Placeholder.not_prefix_of_ne h t
  obtain ⟨tail, hmark, hbrace⟩ := p.exists_tail
  rw [hmark, List.cons_append] at hfront ⊢
  rw [fill_cons hfront, fill_append_of_no_open hbrace, List.cons_append]

/-- Filling makes no end of a mark that was not there before. -/
theorem prefix_of_prefix_fill {filling : Text} (hfilling : Apart filling) (p : Placeholder)
    {name t : Text} (hname : ∀ c ∈ name, c.isLower = true)
    (h : name ++ ['\x7d'] <+: fill p.mark filling t) : name ++ ['\x7d'] <+: t := by
  induction t using marked_induction p.mark_ne_nil generalizing name with
  | nil => exact h
  | marked t ih =>
    rw [fill_mark p.mark_ne_nil] at h
    exact absurd h (hfilling.not_prefix hname _)
  | other c t hc ih =>
    rw [fill_cons hc] at h
    cases name with
    | nil =>
      rw [List.nil_append, List.cons_prefix_cons] at h
      exact List.cons_prefix_cons.mpr ⟨h.1, List.nil_prefix⟩
    | cons d name =>
      rw [List.cons_append, List.cons_prefix_cons] at h
      exact List.cons_prefix_cons.mpr ⟨h.1, ih (fun e he => hname e (List.mem_cons_of_mem d he)) h.2⟩

/-- Behind a character filling makes no mark. -/
theorem mark_prefix_of_fill {filling : Text} (hfilling : Apart filling) {p q : Placeholder} {c : Char}
    {t : Text} (h : q.mark <+: c :: fill p.mark filling t) : q.mark <+: c :: t := by
  obtain ⟨name, hmark, hname⟩ := q.exists_name
  rw [hmark, List.cons_prefix_cons] at h ⊢
  exact ⟨h.1, prefix_of_prefix_fill hfilling p hname h.2⟩

/-- A mark put for itself changes nothing. -/
theorem fill_self (p : Placeholder) (t : Text) : fill p.mark p.mark t = t := by
  induction t using marked_induction p.mark_ne_nil with
  | nil => rfl
  | marked t ih => rw [fill_mark p.mark_ne_nil, ih]
  | other c t hc ih => rw [fill_cons hc, ih]

end Text

namespace Template

/-- What is put for each placeholder. -/
def fillings (locator selector : Text) (value : Option Text) : Placeholder → Option Text
  | .locator => some locator
  | .selector => some selector
  | .value => value

variable {locator selector : Text}

/-- Filling a value as the last of three leaves a missing one as its mark. -/
theorem render_eq_fill (template locator selector : Text) (value : Option Text) :
    render template locator selector value =
      Text.fill Placeholder.value.mark (value.getD Placeholder.value.mark)
        (Text.fill Placeholder.selector.mark selector
          (Text.fill Placeholder.locator.mark locator template)) := by
  cases value with
  | none => exact (Text.fill_self .value _).symm
  | some v => rfl

theorem render_eq_fillPieces (hlocator : Apart locator) (hselector : Apart selector)
    (template : Text) (value : Option Text) :
    render template locator selector value =
      fillPieces (fillings locator selector value) template := by
  rw [render_eq_fill]
  induction template using piece_induction with
  | nil => rfl
  | mark p t ih =>
    have hpieces : fillPieces (fillings locator selector value) (p.mark ++ t) =
        put (fillings locator selector value) (.opening p) ++
          fillPieces (fillings locator selector value) t := by
      rw [fillPieces, pieces_mark, List.flatMap_cons, fillPieces]
    rw [hpieces, ← ih]
    cases p with
    | locator =>
      rw [Text.fill_mark (Placeholder.mark_ne_nil _), Text.fill_append_of_no_open hlocator.no_open,
        Text.fill_append_of_no_open hlocator.no_open]
      rfl
    | selector =>
      rw [Text.fill_append_of_ne (by decide), Text.fill_mark (Placeholder.mark_ne_nil _),
        Text.fill_append_of_no_open hselector.no_open]
      rfl
    | value =>
      rw [Text.fill_append_of_ne (by decide), Text.fill_append_of_ne (by decide),
        Text.fill_mark (Placeholder.mark_ne_nil _)]
      rfl
  | char c t hc ih =>
    have hpieces : fillPieces (fillings locator selector value) (c :: t) =
        c :: fillPieces (fillings locator selector value) t := by
      rw [fillPieces, pieces_cons hc, List.flatMap_cons, fillPieces]
      rfl
    -- No mark comes about behind the character, neither by the locator nor by the selector.
    have hselectorMark : ¬ Placeholder.selector.mark <+:
        c :: Text.fill Placeholder.locator.mark locator t :=
      fun h => hc .selector (Text.mark_prefix_of_fill hlocator h)
    have hvalueMark : ¬ Placeholder.value.mark <+: c :: Text.fill Placeholder.selector.mark selector
        (Text.fill Placeholder.locator.mark locator t) :=
      fun h => hc .value (Text.mark_prefix_of_fill hlocator (Text.mark_prefix_of_fill hselector h))
    rw [hpieces, Text.fill_cons (hc .locator), Text.fill_cons hselectorMark, Text.fill_cons hvalueMark,
      ih]

/-- **Filling in turn is filling at once.** Where the locator and the selector stand apart from marks,
the line is the template with every mark in it, and nothing else, replaced: what is put in is not read
again, and no mark comes about at its edges. A value that was not recorded leaves its marks in place. -/
theorem render_at_once (hlocator : Apart locator) (hselector : Apart selector) (template : Text)
    (value : Option Text) :
    render template locator selector value =
        fillPieces (fillings locator selector value) template ∧
      (∀ (p : Placeholder) (before behind : Text), template = before ++ (p.mark ++ behind) →
        render template locator selector value =
          render before locator selector value ++
            (((fillings locator selector value p).getD p.mark) ++
              render behind locator selector value)) ∧
      ∀ before behind : Text, template = before ++ (Placeholder.value.mark ++ behind) →
        render template locator selector none =
          render before locator selector none ++
            (Placeholder.value.mark ++ render behind locator selector none) := by
  have hall := fun t v => render_eq_fillPieces hlocator hselector t v
  have hmark : ∀ (v : Option Text) (p : Placeholder) (before behind : Text),
      render (before ++ (p.mark ++ behind)) locator selector v =
        render before locator selector v ++
          (((fillings locator selector v p).getD p.mark) ++ render behind locator selector v) := by
    intro v p before behind
    rw [hall, hall, hall, fillPieces, pieces_append_mark, List.flatMap_append, List.flatMap_cons]
    rfl
  refine ⟨hall template value, ?_, ?_⟩
  · rintro p before behind rfl
    exact hmark value p before behind
  · rintro before behind rfl
    exact hmark none .value before behind

/-- The template has a mark within braces that with a locator `sel` would come to another mark. -/
theorem render_at_once_straddling :
    Apart ("sel#" : Text) ∧ Apart ("#a" : Text) ∧
      render "\x7b\x7blocator\x7dector\x7d=\x7bvalue\x7d" "sel#" "#a" (some "\x7bselector\x7d") =
        "\x7bsel#ector\x7d=\x7bselector\x7d" ∧
      render "\x7b\x7blocator\x7dector\x7d=\x7bvalue\x7d" "sel#" "#a" (some "\x7bselector\x7d") =
        render "\x7b" "sel#" "#a" (some "\x7bselector\x7d") ++
          ("sel#" ++ render "ector\x7d=\x7bvalue\x7d" "sel#" "#a" (some "\x7bselector\x7d")) ∧
      render "\x7b\x7blocator\x7dector\x7d=\x7bvalue\x7d" "sel#" "#a" none =
        render "\x7b\x7blocator\x7dector\x7d=" "sel#" "#a" none ++
          ("\x7bvalue\x7d" ++ render "" "sel#" "#a" none) := by
  have hlocator : Apart ("sel#" : Text) := ⟨by decide, by decide, '#', by decide, by decide⟩
  have hselector : Apart ("#a" : Text) := ⟨by decide, by decide, '#', by decide, by decide⟩
  obtain ⟨hwhole, hmark, hvalue⟩ := render_at_once hlocator hselector
    "\x7b\x7blocator\x7dector\x7d=\x7bvalue\x7d" (some "\x7bselector\x7d")
  exact ⟨hlocator, hselector, hwhole.trans (by decide),
    hmark .locator "\x7b" "ector\x7d=\x7bvalue\x7d" rfl,
    hvalue "\x7b\x7blocator\x7dector\x7d=" "" rfl⟩

-- A locator that does not stand apart comes to a mark at its edge, which is filled in its turn.
example : render "\x7b\x7blocator\x7dector\x7d" "sel" "#a" none = "#a" ∧
    fillPieces (fillings "sel" "#a" none) "\x7b\x7blocator\x7dector\x7d" = "\x7bselector\x7d" := by
  decide

end Template

end Cuesheet
