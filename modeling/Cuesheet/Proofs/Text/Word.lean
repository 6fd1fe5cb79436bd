import Mathlib.Data.List.TakeWhile
import Cuesheet.Text.Blank
import Cuesheet.Text.Word

/-!
Names, and texts made of names.

No character of a name is a blank, so names that are each followed by a space can be told from the
text: where two texts of that form are the same and the first goes on with no name, the names of the
second come first in the first (`prefix_of_spaced_eq`).
-/

namespace Cuesheet.Text

/-! ### Characters of names -/

theorem wordRanges_avoid_blanks :
    (wordRanges.all fun r => blankRanges.all fun s => r.2.blt s.1 || s.2.blt r.1) = true := by
  decide +kernel

theorem ascii_blank_not_name : ∀ n < 0x80, isBlank (Char.ofNat n) = true →
    isName (Char.ofNat n) = false := by decide +kernel

theorem isBlank_false_of_isName {c : Char} (h : isName c = true) : isBlank c = false := by
  by_cases hc : c.toNat < 0x80
  · cases hb : isBlank c
    · rfl
    · have hascii := ascii_blank_not_name c.toNat hc
      rw [Char.ofNat_toNat] at hascii
      exact absurd h (by simp [hascii hb])
  · have hdash : c ≠ '-' := by
      rintro rfl
      exact hc (by decide)
    simp only [isName, isWord, hc, if_false, hdash, decide_false, Bool.or_false, inRanges,
      List.any_eq_true, Bool.and_eq_true, decide_eq_true_eq] at h
    obtain ⟨r, hr, hfirst, hlast⟩ := h
    have havoid := List.all_eq_true.mp wordRanges_avoid_blanks r hr
    simp only [isBlank, inRanges, List.any_eq_false, Bool.and_eq_true, decide_eq_true_eq]
    intro s hs
    have hapart := List.all_eq_true.mp havoid s hs
    simp only [Bool.or_eq_true, Nat.blt_eq] at hapart
    omega

theorem isName_false_of_isBlank {c : Char} (h : isBlank c = true) : isName c = false := by
  cases hn : isName c
  · rfl
  · exact absurd h (by simp [isBlank_false_of_isName hn])

/-! ### Names -/

/-- A text that can name an element or an attribute. -/
structure Name (w : Text) : Prop where
  ne_nil : w ≠ []
  chars : ∀ c ∈ w, isName c = true

instance (w : Text) : Decidable (Name w) :=
  decidable_of_iff (w ≠ [] ∧ w.all isName = true)
    ⟨fun ⟨hne, hc⟩ => ⟨hne, List.all_eq_true.mp hc⟩,
      fun h => ⟨h.ne_nil, List.all_eq_true.mpr h.chars⟩⟩

theorem Name.head {w : Text} (h : Name w) : ∃ c rest, w = c :: rest ∧ isName c = true := by
  obtain ⟨c, rest, rfl⟩ := List.exists_cons_of_ne_nil h.ne_nil
  exact ⟨c, rest, rfl, h.chars c (List.mem_cons_self ..)⟩

/-- Where a name ends is told by the text. -/
theorem takeWhile_isName_append {w t : Text} {c : Char} (hw : Name w) (hc : isName c = false) :
    (w ++ c :: t).takeWhile isName = w := by
  rw [List.takeWhile_append_of_pos hw.chars, List.takeWhile_cons_of_neg (by simp [hc]),
    List.append_nil]

theorem dropWhile_isName_append {w t : Text} {c : Char} (hw : Name w) (hc : isName c = false) :
    (w ++ c :: t).dropWhile isName = c :: t := by
  rw [List.dropWhile_append_of_pos hw.chars, List.dropWhile_cons_of_neg (by simp [hc])]

theorem name_append_inj {w w' t t' : Text} {c c' : Char} (hw : Name w) (hw' : Name w')
    (hc : isName c = false) (hc' : isName c' = false) (h : w ++ c :: t = w' ++ c' :: t') :
    w = w' ∧ t = t' := by
  have hsame := congrArg (List.takeWhile isName) h
  rw [takeWhile_isName_append hw hc, takeWhile_isName_append hw' hc'] at hsame
  subst hsame
  exact ⟨rfl, (List.cons.inj (List.append_cancel_left h)).2⟩

theorem isName_space : isName ' ' = false := by decide

/-! ### Names in a row -/

/-- The words in order, each with a space after it, and then the tail. -/
def spaced : List Text → Text → Text
  | [], tail => tail
  | w :: ws, tail => w ++ ' ' :: spaced ws tail

variable {ws ws' : List Text} {tail tail' : Text}

theorem spaced_append (us vs : List Text) (tail : Text) :
    spaced (us ++ vs) tail = spaced us (spaced vs tail) := by
  induction us with
  | nil => rfl
  | cons w us ih => rw [List.cons_append, spaced, spaced, ih]

/-- The tail follows the words. -/
theorem spaced_eq_append (ws : List Text) (tail : Text) :
    spaced ws tail = spaced ws [] ++ tail := by
  induction ws with
  | nil => rfl
  | cons w ws ih => rw [spaced, spaced, ih, List.append_assoc, List.cons_append]

/-- What names in a row begin with. -/
theorem head_spaced {P : Char → Prop} (hws : ∀ w ∈ ws, Name w) (hname : ∀ c, isName c = true → P c)
    (htail : ∀ c ∈ tail.head?, P c) : ∀ c ∈ (spaced ws tail).head?, P c := by
  cases ws with
  | nil => exact htail
  | cons w ws =>
    obtain ⟨c, rest, rfl, hc⟩ := (hws w (List.mem_cons_self ..)).head
    intro d hd
    obtain rfl := Option.some.inj hd
    exact hname _ hc

/-- A name at the front of names in a row is one of them. -/
theorem mem_of_spaced_eq {w rest : Text} {c : Char} (hws : ∀ w ∈ ws, Name w)
    (htail : ∀ c ∈ tail.head?, isName c = false) (hw : Name w) (hc : isName c = false)
    (h : spaced ws tail = w ++ c :: rest) : w ∈ ws := by
  cases ws with
  | nil =>
    obtain ⟨d, w, rfl, hd⟩ := hw.head
    rw [spaced] at h
    exact absurd hd (by simp [htail d (by rw [h]; rfl)])
  | cons w' ws =>
    obtain ⟨hw', _⟩ := List.forall_mem_cons.mp hws
    obtain ⟨rfl, _⟩ := name_append_inj hw' hw isName_space hc h
    exact List.mem_cons_self ..

/-- Names in a row can be told from the text, up to where no name follows. -/
theorem prefix_of_spaced_eq (hws : ∀ w ∈ ws, Name w) (hws' : ∀ w ∈ ws', Name w)
    (htail : ∀ c ∈ tail.head?, isName c = false) (h : spaced ws tail = spaced ws' tail') :
    ws' <+: ws := by
  induction ws' generalizing ws with
  | nil => exact List.nil_prefix
  | cons w' ws' ih =>
    obtain ⟨hw', htails⟩ := List.forall_mem_cons.mp hws'
    cases ws with
    | nil => exact absurd (mem_of_spaced_eq hws htail hw' isName_space h) (by simp)
    | cons w ws =>
      obtain ⟨hw, hws⟩ := List.forall_mem_cons.mp hws
      obtain ⟨rfl, hrest⟩ := name_append_inj hw hw' isName_space isName_space h
      exact List.cons_prefix_cons.mpr ⟨rfl, ih hws htails hrest⟩

end Cuesheet.Text
