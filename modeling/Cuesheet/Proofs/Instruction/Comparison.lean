import Cuesheet.Proofs.Clause
import Cuesheet.Proofs.Instruction.Phrase
import Cuesheet.Proofs.Instruction.Reading
import Cuesheet.Proofs.Instruction.Names

/-!
Checks as they are worded.

A check is worded as names of the element, a subject, a comparison and a quoted value. It is read as
just that (`read_wording`): three patterns look for nearly the same phrase in it, but only words can
match words, and the words of a subject with those of another comparison come nowhere in the text
(`comparison_of_words`). What the value holds makes no difference, since no search goes past its
first quote.
-/

namespace Cuesheet

/-! ### The words of a phrase -/

/-- The words a subject can begin with. -/
def Subject.leads : List Text := ["text", "value", "attribute"]

def Subject.words : Subject → List Text
  | .text => ["text"]
  | .value => ["value"]
  | .attribute name => ["attribute", name]

def Comparison.words : Comparison → List Text
  | .notContains => ["does", "not", "contain"]
  | .startsWith => ["starts", "with"]
  | .endsWith => ["ends", "with"]

theorem Subject.exists_words (subject : Subject) :
    ∃ w ∈ Subject.leads, ∃ rest, subject.words = w :: rest := by
  match subject with
  | .text => exact ⟨"text", by decide, [], rfl⟩
  | .value => exact ⟨"value", by decide, [], rfl⟩
  | .attribute name => exact ⟨"attribute", by decide, [name], rfl⟩

theorem Subject.forall_mem_words {subject : Subject} {P : Text → Prop}
    (hleads : ∀ w ∈ Subject.leads, P w) (hname : ∀ name, subject = .attribute name → P name) :
    ∀ w ∈ subject.words, P w := by
  intro w hw
  match subject, hname with
  | .text, _ =>
    obtain rfl := List.mem_singleton.mp hw
    exact hleads _ (by decide)
  | .value, _ =>
    obtain rfl := List.mem_singleton.mp hw
    exact hleads _ (by decide)
  | .attribute name, hname =>
    rcases List.mem_cons.mp hw with rfl | hw
    · exact hleads _ (by decide)
    · obtain rfl := List.mem_singleton.mp hw
      exact hname _ rfl

theorem Comparison.not_lead_of_mem {comparison : Comparison} :
    ∀ w ∈ comparison.words, w ∉ Subject.leads := by
  cases comparison <;> decide

/-- No comparison begins with the words of another, nor after one more word. -/
theorem Comparison.words_prefix {comparison other : Comparison} :
    (other.words <+: comparison.words → other = comparison) ∧
      ¬ other.words <+: comparison.words.tail := by
  cases comparison <;> cases other <;> decide

namespace Instruction

open Text (Name spaced)

variable {subject : Subject} {comparison : Comparison}

theorem phrase_eq_spaced (subject : Subject) (comparison : Comparison) (rest : Text) :
    subject.phrase ++ (" " ++ comparison.phrase ++ " " ++ rest) =
      spaced (subject.words ++ comparison.words) rest := by
  match subject with
  | .text => cases comparison <;> rfl
  | .value => cases comparison <;> rfl
  | .attribute name =>
    show ("attribute " ++ name) ++ _ = "attribute " ++ (name ++ ' ' :: spaced comparison.words rest)
    rw [List.append_assoc]
    cases comparison <;> rfl

theorem name_of_mem_words (h : Named subject) :
    ∀ w ∈ subject.words ++ comparison.words, Name w := by
  have hcomparison : ∀ w ∈ comparison.words, Name w := by
    cases comparison <;> decide
  refine List.forall_mem_append.mpr ⟨Subject.forall_mem_words (by decide) ?_, hcomparison⟩
  rintro name rfl
  exact h

/-! ### Words match words -/

/-- After one word, the words of a comparison are those of no other. -/
theorem comparison_of_prefix {other : Comparison} {found : Subject} {w : Text}
    (h : found.words ++ other.words <+: w :: comparison.words) : other = comparison := by
  match found with
  | .text => exact Comparison.words_prefix.1 (List.cons_prefix_cons.mp h).2
  | .value => exact Comparison.words_prefix.1 (List.cons_prefix_cons.mp h).2
  | .attribute name =>
    obtain ⟨rest, he⟩ : name :: other.words <+: comparison.words := (List.cons_prefix_cons.mp h).2
    have htail : other.words ++ rest = comparison.words.tail := by
      rw [← he]
      rfl
    exact absurd ⟨rest, htail⟩ Comparison.words_prefix.2

/-- The words of a subject with those of another comparison come nowhere in a phrase. -/
theorem comparison_of_words {other : Comparison} {found : Subject} {vs : List Text}
    (hs : vs <:+ subject.words ++ comparison.words) (hp : found.words ++ other.words <+: vs) :
    other = comparison := by
  have hwithin : ¬ vs <:+ comparison.words := by
    intro hsuffix
    obtain ⟨w, hlead, rest, hw⟩ := found.exists_words
    refine Comparison.not_lead_of_mem w (hsuffix.subset (hp.subset ?_)) hlead
    rw [hw]
    exact List.mem_cons_self ..
  match subject with
  | .text =>
    rcases List.suffix_cons_iff.mp hs with rfl | hs
    · exact comparison_of_prefix hp
    · exact absurd hs hwithin
  | .value =>
    rcases List.suffix_cons_iff.mp hs with rfl | hs
    · exact comparison_of_prefix hp
    · exact absurd hs hwithin
  | .attribute name =>
    rcases List.suffix_cons_iff.mp hs with rfl | hs
    · match found with
      | .text => exact absurd (List.cons_prefix_cons.mp hp).1 (by decide)
      | .value => exact absurd (List.cons_prefix_cons.mp hp).1 (by decide)
      | .attribute _ =>
        exact Comparison.words_prefix.1 (List.cons_prefix_cons.mp (List.cons_prefix_cons.mp hp).2).2
    · rcases List.suffix_cons_iff.mp hs with rfl | hs
      · exact comparison_of_prefix hp
      · exact absurd hs hwithin

/-! ### Finding a check -/

theorem subject?_phrase (h : Named subject) {c : Char} (hc : Text.isName c = false) (t : Text) :
    subject? (subject.phrase ++ c :: t) = some (subject, c :: t) := by
  match subject with
  | .text => rw [subject?, show Subject.phrase .text = "text" from rfl, Text.after?_append]
  | .value =>
    have htext : Text.after? "text" ("value" ++ c :: t) = none := rfl
    rw [subject?, show Subject.phrase .value = "value" from rfl, htext, Text.after?_append]
  | .attribute name =>
    have htext : Text.after? "text" ("attribute " ++ (name ++ c :: t)) = none := rfl
    have hvalue : Text.after? "value" ("attribute " ++ (name ++ c :: t)) = none := rfl
    rw [show Subject.phrase (.attribute name) = "attribute " ++ name from rfl, List.append_assoc,
      subject?, htext, hvalue, Text.after?_append]
    simp only [Text.takeWhile_isName_append h hc, Text.dropWhile_isName_append h hc, h.ne_nil,
      if_false]

theorem bareComparison?_phrase (h : Named subject) {rest : Text} (hrest : rest ≠ []) :
    bareComparison? comparison (subject.phrase ++ (" " ++ comparison.phrase ++ " " ++ rest)) =
      some (subject, unquote rest) := by
  have hfound := subject?_phrase h Text.isName_space (comparison.phrase ++ (" " ++ rest))
  have hafter : restAfter? (" " ++ comparison.phrase ++ " ")
      (" " ++ comparison.phrase ++ " " ++ rest) = some rest :=
    restAfter?_eq_some_iff.mpr ⟨rfl, hrest⟩
  have he : (" " ++ comparison.phrase ++ " " ++ rest : Text) =
      ' ' :: (comparison.phrase ++ (" " ++ rest)) := by
    simp only [List.append_assoc]
    rfl
  rw [← he] at hfound
  rw [bareComparison?, hfound, Option.bind_some]
  show Option.map _ (restAfter? _ _) = _
  rw [hafter]
  rfl

variable {names : List Text} {quote : Char} {value : Text}

/-- What is found at names is made of names. -/
theorem words_prefix_of_find {other : Comparison} {found : Subject} {ws : List Text} {v : Text}
    (hws : ∀ w ∈ ws, Name w) (hquote : isQuote quote = true)
    (h : bareComparison? other (spaced ws (quoted quote value)) = some (found, v)) :
    found.words ++ other.words <+: ws := by
  obtain ⟨hnamed, rest, _, _, he⟩ := bareComparison?_eq_some h
  rw [phrase_eq_spaced] at he
  refine Text.prefix_of_spaced_eq hws (name_of_mem_words hnamed) (fun c hc => ?_) he
  obtain rfl := Option.some.inj hc
  exact isName_false_of_isQuote hquote

/-- Names that are no leads are passed over. -/
theorem comparison?_names (other : Comparison) (hquote : isQuote quote = true)
    (hnames : ∀ w ∈ names, Name w ∧ w ∉ Subject.leads) {ws : List Text} (hws : ∀ w ∈ ws, Name w) :
    comparison? other (spaced (names ++ ws) (quoted quote value)) =
      comparison? other (spaced ws (quoted quote value)) := by
  refine afterNames_spaced (fun w hw => (hnames w hw).1) fun w rest hs => ?_
  have hmem : ∀ w' ∈ w :: rest, w' ∈ names := fun w' hw' => hs.subset hw'
  cases hfind : bareComparison? other (spaced (w :: (rest ++ ws)) (quoted quote value)) with
  | none => rfl
  | some found =>
    have hall : ∀ w' ∈ w :: (rest ++ ws), Name w' := by
      rw [← List.cons_append, List.forall_mem_append]
      exact ⟨fun w' hw' => (hnames w' (hmem w' hw')).1, hws⟩
    have hprefix := words_prefix_of_find hall hquote hfind
    obtain ⟨lead, hlead, words, hwords⟩ := found.1.exists_words
    rw [hwords, List.cons_append] at hprefix
    obtain ⟨rfl, _⟩ := List.cons_prefix_cons.mp hprefix
    exact absurd hlead (hnames lead (hmem lead (List.mem_cons_self ..))).2

/-- Exactly the outer quotes come off. -/
theorem unquote_quoted (hquote : isQuote quote = true) (hvalue : value ≠ []) :
    unquote (quoted quote value) = value := by
  obtain ⟨c, v, rfl⟩ := List.exists_cons_of_ne_nil hvalue
  have hlong : ((c :: (v ++ [quote])).length ≥ 2 &&
      (c :: (v ++ [quote])).getLast?.any isQuote) = true := by
    simp [List.getLast?_cons, hquote]
  rw [quoted, List.cons_append, unquote]
  simp only [hquote, if_true]
  rw [if_pos hlong, ← List.cons_append, List.dropLast_concat]

/-! ### Checks -/

/-- The words that are kept from the names of an element. -/
def reserved : List Text := ["text", "value", "attribute", "and", "or"]

/-- A check in words: names of the element, a subject, a comparison and a quoted value. -/
structure Wording where
  names : List Text
  subject : Subject
  comparison : Comparison
  quote : Char
  value : Text
  name_of_mem : ∀ w ∈ names, Name w ∧ w ∉ reserved
  name_of_attribute : ∀ name, subject = .attribute name → Name name ∧ name ≠ "and" ∧ name ≠ "or"
  isQuote_quote : isQuote quote = true
  value_ne_nil : value ≠ []
  quote_not_mem : quote ∉ value

namespace Wording

/-- The check as an instruction words it: `the big button text starts with 'a'`. -/
def text (x : Wording) : Text :=
  spaced x.names (x.subject.phrase ++
    (" " ++ x.comparison.phrase ++ " " ++ quoted x.quote x.value))

/-- All the words before the value. -/
def words (x : Wording) : List Text := x.names ++ (x.subject.words ++ x.comparison.words)

theorem text_eq (x : Wording) : x.text = spaced x.words (quoted x.quote x.value) := by
  rw [text, phrase_eq_spaced, words, ← Text.spaced_append]

theorem named (x : Wording) : Named x.subject := by
  match h : x.subject with
  | .text => trivial
  | .value => trivial
  | .attribute name => exact (x.name_of_attribute name h).1

theorem not_lead (x : Wording) : ∀ w ∈ x.names, Name w ∧ w ∉ Subject.leads := by
  intro w hw
  have hreserved : ∀ v ∈ Subject.leads, v ∈ reserved := by decide
  obtain ⟨hname, hfree⟩ := x.name_of_mem w hw
  exact ⟨hname, fun hlead => hfree (hreserved w hlead)⟩

theorem name_of_mem_words (x : Wording) : ∀ w ∈ x.words, Name w := by
  rw [words, List.forall_mem_append]
  exact ⟨fun w hw => (x.name_of_mem w hw).1, Instruction.name_of_mem_words x.named⟩

theorem ne_of_mem_words (x : Wording) : ∀ w ∈ x.words, w ≠ "and" ∧ w ≠ "or" := by
  have hcomparison : ∀ w ∈ x.comparison.words, w ≠ "and" ∧ w ≠ "or" := by
    cases x.comparison <;> decide
  have hsubject : ∀ w ∈ x.subject.words, w ≠ "and" ∧ w ≠ "or" :=
    Subject.forall_mem_words (by decide) fun name h => (x.name_of_attribute name h).2
  have hnames : ∀ w ∈ x.names, w ≠ "and" ∧ w ≠ "or" := by
    intro w hw
    have hfree := (x.name_of_mem w hw).2
    constructor
    · rintro rfl
      exact hfree (by decide)
    · rintro rfl
      exact hfree (by decide)
  exact List.forall_mem_append.mpr ⟨hnames, List.forall_mem_append.mpr ⟨hsubject, hcomparison⟩⟩

/-- Neither "and" nor "or" cuts a check, whatever its value holds. -/
theorem splitAt?_text (x : Wording) : splitAt? "and" x.text = none ∧ splitAt? "or" x.text = none := by
  have hname := x.name_of_mem_words
  have hne := x.ne_of_mem_words
  rw [splitAt?_eq_none_iff joint_and, splitAt?_eq_none_iff joint_or, text_eq]
  constructor
  · exact uncut_spaced (by decide) (fun w hw => ⟨hname w hw, (hne w hw).1⟩) x.isQuote_quote
      x.quote_not_mem
  · exact uncut_spaced (by decide) (fun w hw => ⟨hname w hw, (hne w hw).2⟩) x.isQuote_quote
      x.quote_not_mem

theorem ready (x : Wording) (hlower : Text.lower x.text = x.text) : Ready x.text := by
  have hquote := isBlank_false_of_isQuote x.isQuote_quote
  refine ⟨?_, ⟨?_, ?_⟩, hlower⟩
  · rw [text_eq, Text.spaced_eq_append]
    exact List.append_ne_nil_of_right_ne_nil _ (List.cons_ne_nil _ _)
  · rw [text_eq]
    refine Text.head_spaced x.name_of_mem_words (fun c hc => Text.isBlank_false_of_isName hc) ?_
    intro c hc
    exact Option.some.inj hc ▸ hquote
  · intro c hc
    rw [text_eq, Text.spaced_eq_append, quoted, ← List.cons_append, ← List.append_assoc,
      List.getLast?_concat] at hc
    exact Option.some.inj hc ▸ hquote

/-- **The comparison is found with its subject and its value.** -/
theorem comparison?_text (x : Wording) :
    comparison? x.comparison x.text = some (x.subject, x.value) := by
  have hne : quoted x.quote x.value ≠ [] := List.cons_ne_nil _ _
  rw [text_eq, words, comparison?_names x.comparison x.isQuote_quote x.not_lead
    (Instruction.name_of_mem_words x.named)]
  refine afterNames_of_find ?_ ?_
  · rw [Text.spaced_eq_append]
    exact List.append_ne_nil_of_right_ne_nil _ hne
  · rw [← phrase_eq_spaced, bareComparison?_phrase x.named hne,
      unquote_quoted x.isQuote_quote x.value_ne_nil]

/-- No other comparison is found. -/
theorem comparison?_text_of_ne (x : Wording) {other : Comparison} (hother : other ≠ x.comparison) :
    comparison? other x.text = none := by
  have hwords : ∀ w ∈ x.subject.words ++ x.comparison.words, Name w :=
    Instruction.name_of_mem_words x.named
  rw [text_eq, words, comparison?_names other x.isQuote_quote x.not_lead hwords]
  refine afterNames_eq_none hwords x.isQuote_quote fun vs hs => ?_
  cases hfind : bareComparison? other (spaced vs (quoted x.quote x.value)) with
  | none => rfl
  | some found =>
    have hnames : ∀ w ∈ vs, Name w := fun w hw => hwords w (hs.subset hw)
    have hprefix := words_prefix_of_find hnames x.isQuote_quote hfind
    exact absurd (comparison_of_words hs hprefix) hother

end Wording

/-- Before the pattern of a check come those that cut the text, and other checks. -/
theorem exists_before_check (comparison : Comparison) :
    ∃ before after, Pattern.order = before ++ .check comparison :: after ∧
      ∀ p ∈ before, p = .conjunction ∨ p = .disjunction ∨
        ∃ other, other ≠ comparison ∧ p = .check other := by
  cases comparison with
  | notContains => exact ⟨[.conjunction, .disjunction], _, rfl, by simp⟩
  | startsWith => exact ⟨[.conjunction, .disjunction, .check .notContains], _, rfl, by simp⟩
  | endsWith =>
    exact ⟨[.conjunction, .disjunction, .check .notContains, .check .startsWith], _, rfl, by simp⟩

/-- **A check is read as it is worded**, where no wait stands in it and no compound phrase leads it. -/
theorem read_wording (x : Wording) (hlower : Text.lower x.text = x.text)
    (hwait : wait? x.text = none) (hlead : hasCompoundLead x.text = false) (below : Nat) :
    read (below + 1) x.text = some (.predicate (.compares x.subject x.comparison x.value)) := by
  obtain ⟨hand, hor⟩ := x.splitAt?_text
  have hcompound : isCompound x.text = false := by
    rw [isCompound, hlead, hwait]
    rfl
  obtain ⟨before, after, horder, hbefore⟩ := exists_before_check x.comparison
  rw [(x.ready hlower).read, firstClaim_eq_some_iff]
  refine ⟨before, .check x.comparison, after, horder, fun p hp => ?_, ?_⟩
  · rcases hbefore p hp with rfl | rfl | ⟨other, hother, rfl⟩
    · simp only [Pattern.claim, hand]
    · simp only [Pattern.claim, hor]
    · simp [Pattern.claim, hcompound, x.comparison?_text_of_ne hother]
  · simp [Pattern.claim, hcompound, x.comparison?_text]

/-- The value may hold the other quote, both separating words and the words of another check. -/
theorem read_wording_attribute :
    let t : Text :=
      "the ok-button attribute text ends with 'a \"b\" and value starts with c or d'"
    Text.lower t = t ∧ wait? t = none ∧ hasCompoundLead t = false ∧
      read 1 t = some (.predicate (.compares (.attribute "text") .endsWith
        "a \"b\" and value starts with c or d")) := by
  intro t
  let x : Wording := ⟨["the", "ok-button"], .attribute "text", .endsWith, '\'',
    "a \"b\" and value starts with c or d", by decide +kernel,
    fun name h => Subject.attribute.inj h ▸ by decide +kernel, by decide, by decide, by decide⟩
  have htext : x.text = t := by decide +kernel
  have hlower : Text.lower x.text = x.text := by decide +kernel
  have hwait : wait? x.text = none := by decide +kernel
  have hlead : hasCompoundLead x.text = false := by decide +kernel
  rw [← htext]
  exact ⟨hlower, hwait, hlead, read_wording x hlower hwait hlead 0⟩

end Instruction

end Cuesheet
