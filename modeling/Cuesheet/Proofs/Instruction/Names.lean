import Cuesheet.Instruction.Phrase
import Cuesheet.Proofs.Instruction.Split
import Cuesheet.Proofs.Text.Word

/-!
Names in a row, and then a quoted value.

In such a text the quotes of the value are the only literal, whatever the value holds, since the
scan stands outside a literal and after a blank where it comes to the first quote. So no separator
cuts the text unless its word is one of the names (`uncut_spaced`). A phrase that is searched after
leading names is tried at each name and at the value (`afterNames_spaced`, `afterNames_eq_none`).
-/

namespace Cuesheet.Instruction

open Text (Name spaced isName)

/-- The value between two of the quotes. -/
def quoted (quote : Char) (value : Text) : Text := quote :: (value ++ [quote])

variable {quote : Char} {value : Text} {ws : List Text} {tail : Text}

theorem isName_false_of_isQuote {c : Char} (h : isQuote c = true) : isName c = false := by
  simp only [isQuote, Bool.or_eq_true, decide_eq_true_eq] at h
  rcases h with rfl | rfl <;> decide

theorem isQuote_false_of_isName {c : Char} (h : isName c = true) : isQuote c = false := by
  cases hq : isQuote c
  · rfl
  · exact absurd h (by simp [isName_false_of_isQuote hq])

/-! ### The literal -/

/-- An open literal closes at the first of its quotes, if that can close one. -/
theorem literalsFrom_contents (hvalue : quote ∉ value) (start i : Nat) (t : Text) :
    literalsFrom (.inside quote start) i (value ++ quote :: t) =
      if closesBefore t then
        ⟨start, i + value.length + 1⟩ :: literalsFrom (.outside false) (i + value.length + 1) t
      else literalsFrom (.inside quote start) (i + value.length + 1) t := by
  induction value generalizing i with
  | nil => simp [literalsFrom]
  | cons c value ih =>
    rw [List.mem_cons, not_or] at hvalue
    have hc : c ≠ quote := fun h => hvalue.1 h.symm
    have hlength : i + 1 + value.length = i + (c :: value).length := by
      rw [List.length_cons]
      omega
    rw [List.cons_append, literalsFrom, if_neg (by simp [hc]), ih hvalue.2, hlength]

/-- A literal that is open closes at the last character, if its quote comes nowhere before. -/
theorem literalsFrom_value (hvalue : quote ∉ value) (start i : Nat) :
    literalsFrom (.inside quote start) i (value ++ [quote]) = [⟨start, i + value.length + 1⟩] := by
  have hcloses : closesBefore [] = true := rfl
  rw [literalsFrom_contents hvalue, if_pos hcloses, literalsFrom]

theorem covered_quoted (hquote : isQuote quote = true) (hvalue : quote ∉ value) {j : Nat}
    (hj : j < (quoted quote value).length) : Covered (quoted quote value) j := by
  refine ⟨⟨0, 1 + value.length + 1⟩, ?_, Nat.zero_le j, ?_⟩
  · rw [literals, quoted, literalsFrom, if_pos (by simp [hquote]), literalsFrom_value hvalue]
    exact List.mem_singleton.mpr rfl
  · simp only [quoted, List.length_cons, List.length_append, List.length_nil] at hj
    show j < 1 + value.length + 1
    omega

/-! ### Names before the literal -/

theorem no_quote_of_mem_spaced (hws : ∀ w ∈ ws, Name w) : ∀ c ∈ spaced ws [], isQuote c = false := by
  induction ws with
  | nil => simp [spaced]
  | cons w ws ih =>
    obtain ⟨hw, hws⟩ := List.forall_mem_cons.mp hws
    intro c hc
    rcases List.mem_append.mp hc with hc | hc
    · exact isQuote_false_of_isName (hw.chars c hc)
    · rcases List.mem_cons.mp hc with rfl | hc
      · decide
      · exact ih hws c hc

/-- Names in a row end with a space. -/
theorem last_spaced (ws : List Text) :
    spaced ws [] = [] ∨ ∃ c ∈ (spaced ws []).getLast?, Text.isBlank c = true := by
  induction ws with
  | nil => exact .inl rfl
  | cons w ws ih =>
    right
    rw [spaced, List.getLast?_append, List.getLast?_cons]
    rcases ih with hnil | ⟨c, hc, hblank⟩
    · exact ⟨' ', by simp [hnil], by decide⟩
    · rw [Option.mem_def] at hc
      exact ⟨c, by simp [hc], hblank⟩

/-- After names in a row a quote opens a literal. -/
theorem scanEnd_spaced (hws : ∀ w ∈ ws, Name w) :
    scanEnd (.outside true) 0 (spaced ws []) = .outside true := by
  rcases last_spaced ws with hnil | hlast
  · rw [hnil, scanEnd]
  · exact scanEnd_of_no_quote (s := .outside true) trivial (no_quote_of_mem_spaced hws) hlast

theorem seam_spaced (ws : List Text) (x : Text) : Seam (spaced ws []) x := by
  right
  intro c hc
  rcases last_spaced ws with hnil | ⟨d, hd, hblank⟩
  · rw [hnil] at hc
    exact absurd hc (by simp)
  · rw [Option.mem_def] at hc hd
    obtain rfl := Option.some.inj (hc.symm.trans hd)
    exact hblank

/-- After a single space a separator goes on with its word and a blank. -/
theorem Leads.after_space {word x : Text} (h : Leads word (' ' :: x))
    (hx : ∀ c ∈ x.head?, Text.isBlank c = false) :
    ∃ b rest, x = word ++ b :: rest ∧ Text.isBlank b = true := by
  obtain ⟨gap, hg, rest, he⟩ := h
  obtain ⟨before, after, rfl, hbne, hane, hb, ha⟩ := hg.split
  obtain ⟨b, before, rfl⟩ := List.exists_cons_of_ne_nil hbne
  obtain ⟨a, after, rfl⟩ := List.exists_cons_of_ne_nil hane
  simp only [List.cons_append, List.append_assoc] at he
  obtain ⟨_, rfl⟩ := List.cons.inj he
  cases before with
  | nil => exact ⟨a, after ++ rest, rfl, ha a (List.mem_cons_self ..)⟩
  | cons d before =>
    exact absurd (hx d rfl) (by simp [hb d (by simp)])

/-- Among names only the word itself makes a separator. -/
theorem not_leads_spaced {word : Text} (hword : Name word) (hws : ∀ w ∈ ws, Name w ∧ w ≠ word)
    (htail : ∀ c ∈ tail.head?, isName c = false ∧ Text.isBlank c = false) {j : Nat}
    (hj : j < (spaced ws []).length) : ¬ Leads word ((spaced ws tail).drop j) := by
  induction ws generalizing j with
  | nil => exact absurd hj (Nat.not_lt_zero j)
  | cons w ws ih =>
    obtain ⟨⟨hw, _⟩, hws⟩ := List.forall_mem_cons.mp hws
    intro hl
    rw [spaced] at hl
    -- within the name no blank stands; after its space the next name is told by the text
    rcases Nat.lt_trichotomy j w.length with hlt | rfl | hgt
    · rw [List.drop_append_of_le_length (Nat.le_of_lt hlt), List.drop_eq_getElem_cons hlt] at hl
      obtain ⟨c, rest, he, hc⟩ := hl.head
      obtain ⟨rfl, _⟩ := List.cons.inj he
      exact absurd hc (by
        rw [Text.isBlank_false_of_isName (hw.chars _ (List.getElem_mem hlt))]
        decide)
    · rw [List.drop_left] at hl
      have hnames : ∀ w ∈ ws, Name w := fun w hw => (hws w hw).1
      have hhead : ∀ c ∈ (spaced ws tail).head?, Text.isBlank c = false :=
        Text.head_spaced hnames (fun c hc => Text.isBlank_false_of_isName hc)
          (fun c hc => (htail c hc).2)
      obtain ⟨b, rest, he, hb⟩ := hl.after_space hhead
      have hmem := Text.mem_of_spaced_eq hnames (fun c hc => (htail c hc).1) hword
        (Text.isName_false_of_isBlank hb) he
      exact (hws word hmem).2 rfl
    · obtain ⟨k, rfl⟩ : ∃ k, j = w.length + (k + 1) := ⟨j - w.length - 1, by omega⟩
      rw [← List.drop_drop, List.drop_left, List.drop_succ_cons] at hl
      rw [spaced, List.length_append, List.length_cons] at hj
      exact ih hws (by omega) hl

/-- A quoted value after names is left whole by a word that is none of them. -/
theorem uncut_spaced {word : Text} (hword : Name word) (hws : ∀ w ∈ ws, Name w ∧ w ≠ word)
    (hquote : isQuote quote = true) (hvalue : quote ∉ value) :
    Uncut word (spaced ws (quoted quote value)) := by
  intro j hl
  have hnames : ∀ w ∈ ws, Name w := fun w hw => (hws w hw).1
  have hin : j < (spaced ws (quoted quote value)).length := (leads_within [] [] hl).1
  have hj : (spaced ws []).length ≤ j := by
    by_contra hlt
    refine not_leads_spaced hword hws ?_ (Nat.lt_of_not_le hlt) hl
    intro c hc
    obtain rfl := Option.some.inj hc
    exact ⟨isName_false_of_isQuote hquote, isBlank_false_of_isQuote hquote⟩
  rw [Text.spaced_eq_append] at hin ⊢
  obtain ⟨k, rfl⟩ := Nat.exists_eq_add_of_le hj
  rw [covered_append_right (seam_spaced ws _) (scanEnd_spaced hnames)]
  rw [List.length_append] at hin
  exact covered_quoted hquote hvalue (by omega)

/-! ### Searching after names -/

section Search

variable {α : Type} {find : Text → Option α}

/-- Within a name the search goes on to its end. -/
theorem afterNames_within {w : Text} (hw : ∀ c ∈ w, isName c = true) (t : Text) :
    afterNames find false (w ++ ' ' :: t) = afterNames find true t := by
  induction w with
  | nil => simp [afterNames, Text.isName_space]
  | cons c w ih =>
    obtain ⟨hc, hw⟩ := List.forall_mem_cons.mp hw
    rw [List.cons_append, afterNames]
    simp [hc, ih hw]

/-- A name at which nothing is found is passed over. -/
theorem afterNames_skip {w : Text} (hw : Name w) {t : Text} (hfind : find (w ++ ' ' :: t) = none) :
    afterNames find true (w ++ ' ' :: t) = afterNames find true t := by
  obtain ⟨c, w, rfl, hc⟩ := hw.head
  rw [List.cons_append] at hfind ⊢
  rw [afterNames]
  simp only [if_true, hfind, hc]
  exact afterNames_within (fun d hd => hw.chars d (List.mem_cons_of_mem c hd)) t

/-- What is found at the front of a text is the answer. -/
theorem afterNames_of_find {t : Text} {a : α} (hne : t ≠ []) (hfind : find t = some a) :
    afterNames find true t = some a := by
  obtain ⟨c, t, rfl⟩ := List.exists_cons_of_ne_nil hne
  simp [afterNames, hfind]

/-- Names at which nothing is found are passed over. -/
theorem afterNames_spaced {us vs : List Text} (hus : ∀ w ∈ us, Name w)
    (hfind : ∀ w rest, w :: rest <:+ us → find (spaced (w :: (rest ++ vs)) tail) = none) :
    afterNames find true (spaced (us ++ vs) tail) = afterNames find true (spaced vs tail) := by
  induction us with
  | nil => rfl
  | cons w us ih =>
    obtain ⟨hw, hus⟩ := List.forall_mem_cons.mp hus
    rw [List.cons_append, spaced, afterNames_skip hw (hfind w us List.suffix_rfl)]
    exact ih hus fun w' rest hs => hfind w' rest (hs.trans (List.suffix_cons w us))

/-- Nothing is found after names and at no quote. -/
theorem afterNames_eq_none (hws : ∀ w ∈ ws, Name w) (hquote : isQuote quote = true)
    (hfind : ∀ vs, vs <:+ ws → find (spaced vs (quoted quote value)) = none) :
    afterNames find true (spaced ws (quoted quote value)) = none := by
  have hskip : afterNames find true (spaced (ws ++ []) (quoted quote value)) =
      afterNames find true (spaced [] (quoted quote value)) :=
    afterNames_spaced hws fun w rest hs => by rw [List.append_nil]; exact hfind _ hs
  rw [List.append_nil] at hskip
  have hnil := hfind [] List.nil_suffix
  have hspace : quote ≠ ' ' := by
    rintro rfl
    exact absurd hquote (by decide)
  rw [hskip]
  simp only [spaced, quoted] at hnil ⊢
  simp [afterNames, hnil, isName_false_of_isQuote hquote, hspace]

end Search

end Cuesheet.Instruction
