import Mathlib.Data.List.Forall2
import Cuesheet.Recording
import Cuesheet.Proofs.Text.Line
import Cuesheet.Proofs.Text.Lowercase

/-!
Spellings of a kind of assertion.

A space, a hyphen and an underscore between the words of a kind's name are the same: spellings that
differ in them alone (`Respelled`) are lower-cased alike, and come to one name once every hyphen and
underscore is a space. But blanks are taken off the ends before that, and hyphens and underscores are
not. So a spelling names a kind only if it begins and ends with something else (`Flush`), and of two
spellings that differ in these characters alone both name the kind exactly if both are flush
(`ofKey?_respelled_iff`).
-/

namespace Cuesheet

namespace AssertionKind

open Text

/-- The characters that part the words of a kind's name as people type it. -/
def joiners : List Char := [' ', '-', '_']

/-- The characters are the same, or both part words. -/
def Alike (c d : Char) : Prop := c = d ∨ c ∈ joiners ∧ d ∈ joiners

instance (c d : Char) : Decidable (Alike c d) := inferInstanceAs (Decidable (_ ∨ _))

/-- The texts are equally long and differ only where both part words. -/
abbrev Respelled (s t : Text) : Prop := List.Forall₂ Alike s t

/-- Outer blanks apart, the text neither begins nor ends with a hyphen or an underscore. -/
structure Flush (t : Text) : Prop where
  head : ∀ c ∈ (trim t).head?, c ∉ ['-', '_']
  last : ∀ c ∈ (trim t).getLast?, c ∉ ['-', '_']

instance (t : Text) : Decidable (Flush t) :=
  decidable_of_iff (∀ c ∈ ['-', '_'], (trim t).head? ≠ some c ∧ (trim t).getLast? ≠ some c)
    ⟨fun h => ⟨fun c hc hdash => (h c hdash).1 hc, fun c hc hdash => (h c hdash).2 hc⟩,
      fun h c hdash => ⟨fun hc => h.head c hc hdash, fun hc => h.last c hc hdash⟩⟩

/-- The name that a text comes to when it is read as that of a kind. -/
def spelled (t : Text) : Text := replaceChars ['-', '_'] ' ' (lower (trim t))

variable {s t : Text}

theorem ofKey?_eq_some_iff {kind : AssertionKind} : ofKey? t = some kind ↔ spelled t = kind.key := by
  constructor
  · intro h
    simpa [spelled, eq_comm] using List.find?_some h
  · intro h
    show all.find? (·.key = spelled t) = some kind
    rw [h]
    cases kind <;> decide

theorem ofKey?_congr (h : spelled s = spelled t) : ofKey? s = ofKey? t := by
  show all.find? (·.key = spelled s) = all.find? (·.key = spelled t)
  rw [h]

theorem Respelled.symm (h : Respelled s t) : Respelled t s :=
  List.Forall₂.flip (h.imp fun _ _ => .imp Eq.symm And.symm)

/-! ### Lower case -/

/-- What parts words is kept by lower-casing, has no case and stands between letters that have. -/
theorem joiner_plain : ∀ c ∈ joiners, Settled c ∧ isCased c = false ∧ isCaseIgnorable c = false := by
  have hkept : ∀ c ∈ joiners, c ≠ 'Σ' ∧ c ≠ 'İ' ∧ lowerChar c = c := by decide
  have hplain : ∀ c ∈ joiners, isCased c = false ∧ isCaseIgnorable c = false := by decide
  exact fun c hc => ⟨⟨(hkept c hc).1, (hkept c hc).2.1, (hkept c hc).2.2⟩, hplain c hc⟩

theorem Respelled.casedAhead (h : Respelled s t) : casedAhead s = casedAhead t := by
  induction h with
  | nil => rfl
  | @cons c d s t hcd _ ih =>
    rcases hcd with rfl | ⟨hc, hd⟩
    · cases hign : isCaseIgnorable c with
      | true => simpa [Text.casedAhead, hign] using ih
      | false => simp [Text.casedAhead, hign]
    · obtain ⟨-, hc, hcign⟩ := joiner_plain c hc
      obtain ⟨-, hd, hdign⟩ := joiner_plain d hd
      simp [Text.casedAhead, hcign, hdign, hc, hd]

theorem lowerFrom_joiner {c : Char} (hc : c ∈ joiners) (b : Bool) (t : Text) :
    lowerFrom b (c :: t) = c :: lowerFrom false t := by
  obtain ⟨hsettled, hcased, hign⟩ := joiner_plain c hc
  rw [lowerFrom, if_neg hsettled.not_sigma, if_neg hsettled.not_dotted, hsettled.kept]
  simp [hcased, hign]

theorem Respelled.lowerFrom (h : Respelled s t) (b : Bool) :
    Respelled (lowerFrom b s) (lowerFrom b t) := by
  induction h generalizing b with
  | nil => exact .nil
  | @cons c d s t hcd hrest ih =>
    rcases hcd with rfl | ⟨hc, hd⟩
    · simp only [Text.lowerFrom, Respelled.casedAhead hrest]
      split
      · exact .cons (.inl rfl) (ih _)
      · split
        · exact .cons (.inl rfl) (.cons (.inl rfl) (ih _))
        · exact .cons (.inl rfl) (ih _)
    · rw [lowerFrom_joiner hc, lowerFrom_joiner hd]
      exact .cons (.inr ⟨hc, hd⟩) (ih false)

/-- With a space for every hyphen and underscore the spellings are one. -/
theorem Respelled.replaceChars_eq (h : Respelled s t) :
    replaceChars ['-', '_'] ' ' s = replaceChars ['-', '_'] ' ' t := by
  have hspace : ∀ c ∈ joiners, (if c ∈ ['-', '_'] then ' ' else c) = ' ' := by decide
  induction h with
  | nil => rfl
  | @cons c d s t hcd _ ih =>
    rw [replaceChars, replaceChars] at ih ⊢
    rw [List.map_cons, List.map_cons, ih]
    rcases hcd with rfl | ⟨hc, hd⟩
    · rfl
    · rw [hspace c hc, hspace d hd]

/-! ### The ends -/

/-- What parts words is a blank, unless it is a hyphen or an underscore. -/
theorem joiner_cases : ∀ c ∈ joiners, c = ' ' ∨ c ∈ ['-', '_'] := by decide

theorem isBlank_dash : ∀ c ∈ ['-', '_'], isBlank c = false := by decide

theorem Respelled.trimStart (h : Respelled s t)
    (hs : ∀ c ∈ (trimStart s).head?, c ∉ ['-', '_'])
    (ht : ∀ c ∈ (trimStart t).head?, c ∉ ['-', '_']) : Respelled (trimStart s) (trimStart t) := by
  induction h with
  | nil => exact .nil
  | @cons c d s t hcd hrest ih =>
    -- Neither text begins with a hyphen or an underscore, so what parts words here is a space in both.
    have hspace : ∀ {e : Char} {u : Text}, (∀ c ∈ (Text.trimStart (e :: u)).head?, c ∉ ['-', '_']) →
        e ∈ joiners → e = ' ' := by
      intro e u hu he
      refine (joiner_cases e he).resolve_right fun hdash => hu e ?_ hdash
      simp [Text.trimStart, isBlank_dash e hdash]
    have hsame : c = d := by
      rcases hcd with hcd | ⟨hc, hd⟩
      · exact hcd
      · rw [hspace hs hc, hspace ht hd]
    subst hsame
    cases hb : isBlank c with
    | true =>
      simp only [Text.trimStart, List.dropWhile_cons, hb, if_true] at hs ht ⊢
      exact ih hs ht
    | false =>
      simp only [Text.trimStart, List.dropWhile_cons, hb, Bool.false_eq_true, if_false]
      exact .cons (.inl rfl) hrest

theorem Respelled.trimEnd (h : Respelled s t)
    (hs : ∀ c ∈ (trimEnd s).getLast?, c ∉ ['-', '_'])
    (ht : ∀ c ∈ (trimEnd t).getLast?, c ∉ ['-', '_']) : Respelled (trimEnd s) (trimEnd t) := by
  rw [trimEnd_eq_reverse, List.getLast?_reverse] at hs ht
  rw [trimEnd_eq_reverse, trimEnd_eq_reverse]
  exact List.forall₂_reverse_iff.mpr
    (Respelled.trimStart (List.forall₂_reverse_iff.mpr h) hs ht)

/-- Spellings that are flush come to one name. -/
theorem Respelled.spelled_eq (h : Respelled s t) (hs : Flush s) (ht : Flush t) :
    spelled s = spelled t := by
  have hhead : ∀ {u : Text}, Flush u → ∀ c ∈ (Text.trimStart u).head?, c ∉ ['-', '_'] := by
    intro u hu c hc
    exact hu.head c (head?_trim u ▸ hc)
  have hstart := h.trimStart (hhead hs) (hhead ht)
  have htrim : Respelled (trim s) (trim t) := Respelled.trimEnd hstart hs.last ht.last
  exact (Respelled.lowerFrom htrim false).replaceChars_eq

/-- No kind's name begins or ends with a space. -/
theorem key_flush : ∀ kind : AssertionKind,
    kind.key.head? ≠ some ' ' ∧ kind.key.getLast? ≠ some ' ' := by
  intro kind
  cases kind <;> decide

/-- Lower-casing keeps what parts words at the end of a text. -/
theorem lowerFrom_append_joiner {c : Char} (hc : c ∈ joiners) (b : Bool) (t : Text) :
    ∃ u, lowerFrom b (t ++ [c]) = u ++ [c] := by
  induction t generalizing b with
  | nil => exact ⟨[], lowerFrom_joiner hc b []⟩
  | cons d t ih =>
    obtain ⟨out, b', hout, -⟩ := exists_lowerFrom_cons b d (t ++ [c])
    obtain ⟨u, hu⟩ := ih b'
    exact ⟨out ++ u, by rw [List.cons_append, hout, hu, List.append_assoc]⟩

/-- What names a kind is flush. -/
theorem flush_of_ofKey? {kind : AssertionKind} (h : ofKey? t = some kind) : Flush t := by
  obtain ⟨hhead, hlast⟩ := kind.key_flush
  rw [← ofKey?_eq_some_iff.mp h, spelled] at hhead hlast
  have hjoiner : ∀ c ∈ ['-', '_'], c ∈ joiners := by decide
  have hspace : ∀ c ∈ ['-', '_'], (if c ∈ ['-', '_'] then ' ' else c) = ' ' := by decide
  constructor
  · intro c hc hdash
    obtain ⟨rest, hrest⟩ := List.head?_eq_some_iff.mp hc
    rw [hrest, lower, lowerFrom_joiner (hjoiner c hdash)] at hhead
    exact hhead (by rw [replaceChars, List.map_cons, hspace c hdash, List.head?_cons])
  · intro c hc hdash
    obtain ⟨rest, hrest⟩ := List.getLast?_eq_some_iff.mp hc
    obtain ⟨u, hu⟩ := lowerFrom_append_joiner (hjoiner c hdash) false rest
    rw [hrest, lower, hu] at hlast
    refine hlast ?_
    rw [replaceChars, List.map_append, List.map_singleton, hspace c hdash, List.getLast?_concat]

/-- A flush spelling names what another spelling of the same length names. -/
theorem ofKey?_of_respelled {kind : AssertionKind} (h : Respelled s t) (ht : Flush t)
    (hs : ofKey? s = some kind) : ofKey? t = some kind :=
  ofKey?_congr (h.spelled_eq (flush_of_ofKey? hs) ht) ▸ hs

/-- A kind other than that of presence is asked for by its name only. -/
theorem ofKey?_of_getD_ne (h : (ofKey? t).getD .present ≠ .present) :
    ofKey? t = some ((ofKey? t).getD .present) := by
  cases ht : ofKey? t with
  | some kind => rfl
  | none => exact absurd (by rw [ht]; rfl) h

theorem flush_of_getD_eq {kind : AssertionKind}
    (h : (ofKey? s).getD .present = (ofKey? t).getD .present) (hs : ofKey? s = some kind)
    (hkind : kind ≠ .present) : Flush t := by
  rw [hs, Option.getD_some] at h
  exact flush_of_ofKey? (ofKey?_of_getD_ne (h ▸ hkind))

theorem kind_assertion? {a : Action} (h : a.asserts = true) :
    a.assertion?.map (·.kind) = some ((a.assertionType.bind ofKey?).getD .present) := by
  rw [Action.assertion?, if_pos h]
  rfl

/-- **Which spellings name the same kind.** Of two that differ only in what parts words, each names what
the other does exactly if it is flush; and two actions whose kinds of assertion are typed so ask for the
same kind exactly if that holds wherever the kind is not that of presence, which stands for any unknown
one. -/
theorem ofKey?_respelled_iff (h : Respelled s t) :
    (ofKey? s = ofKey? t ↔
      (∀ kind, ofKey? s = some kind → Flush t) ∧ ∀ kind, ofKey? t = some kind → Flush s) ∧
    ∀ a b : Action, a.asserts = true → b.asserts = true →
      a.assertionType = some s → b.assertionType = some t →
      (a.assertion?.map (·.kind) = b.assertion?.map (·.kind) ↔
        (∀ kind, ofKey? s = some kind → kind ≠ .present → Flush t) ∧
          ∀ kind, ofKey? t = some kind → kind ≠ .present → Flush s) := by
  have hst : ∀ kind, Flush t → ofKey? s = some kind → ofKey? t = some kind :=
    fun _ => ofKey?_of_respelled h
  have hts : ∀ kind, Flush s → ofKey? t = some kind → ofKey? s = some kind :=
    fun _ => ofKey?_of_respelled h.symm
  constructor
  · constructor
    · intro he
      exact ⟨fun kind hs => flush_of_ofKey? (he ▸ hs), fun kind ht => flush_of_ofKey? (he ▸ ht)⟩
    · rintro ⟨hflush, hflush'⟩
      cases hs : ofKey? s with
      | some kind => exact (hst kind (hflush kind hs) hs).symm
      | none =>
        cases ht : ofKey? t with
        | none => rfl
        | some kind => exact hs ▸ hts kind (hflush' kind ht) ht
  · intro a b ha hb has hbt
    rw [kind_assertion? ha, kind_assertion? hb, has, hbt, Option.some_inj, Option.bind_some,
      Option.bind_some]
    constructor
    · intro he
      exact ⟨fun _ hs hkind => flush_of_getD_eq he hs hkind,
        fun _ ht hkind => flush_of_getD_eq he.symm ht hkind⟩
    · rintro ⟨hflush, hflush'⟩
      by_cases hs : (ofKey? s).getD .present = .present
      · by_cases ht : (ofKey? t).getD .present = .present
        · rw [hs, ht]
        · have hname := ofKey?_of_getD_ne ht
          rw [hts _ (hflush' _ hname ht) hname, Option.getD_some]
      · have hname := ofKey?_of_getD_ne hs
        rw [hst _ (hflush _ hname hs) hname, Option.getD_some]

/-- Blanks around a name in mixed case, and an underscore where the other has a hyphen. -/
theorem ofKey?_respelled_iff_value_is :
    let a := { Action.click "#a" with asserts := true, assertionType := some " Value-IS " }
    let b := { Action.input "#b" "x" with asserts := true, assertionType := some " Value_IS " }
    Respelled " Value-IS " " Value_IS " ∧ Flush " Value-IS " ∧ Flush " Value_IS " ∧
      ofKey? " Value-IS " = ofKey? " Value_IS " ∧
      a.assertion?.map (·.kind) = b.assertion?.map (·.kind) := by
  intro a b
  have hrespelled : Respelled " Value-IS " " Value_IS " := by decide
  have hs : Flush " Value-IS " := by decide
  have ht : Flush " Value_IS " := by decide
  obtain ⟨hnames, hkinds⟩ := ofKey?_respelled_iff hrespelled
  exact ⟨hrespelled, hs, ht, hnames.mpr ⟨fun _ _ => ht, fun _ _ => hs⟩,
    (hkinds a b rfl rfl rfl rfl).mpr ⟨fun _ _ _ => ht, fun _ _ _ => hs⟩⟩

/-- So what parts words is not the same everywhere: a space at the end is taken off, a hyphen is not. -/
theorem not_forall_ofKey?_respelled : ¬ ∀ s t : Text, Respelled s t → ofKey? s = ofKey? t :=
  fun h => absurd (h "has text " "has text-" (by decide)) (by decide)

end AssertionKind

end Cuesheet
