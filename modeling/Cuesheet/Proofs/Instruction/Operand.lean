import Mathlib.Data.List.Basic
import Cuesheet.Proofs.Clause
import Cuesheet.Proofs.Instruction.Phrase
import Cuesheet.Proofs.Instruction.Reading

/-!
What is read within an instruction, and why reading ends without a ceiling.

A pattern hands pieces of its text on to be read, and makes of the text what it makes of those
(`claim_congr`). Each piece leaves something of the text out (`inside_of_mem_operands`): a separator that
cuts has a length, and so have the words of a phrase. A text that is shown to patterns is lower-case, so
a piece of it is not made longer when it is lower-cased again. Hence a ceiling as high as the text is
long is no ceiling (`read_settles`).
-/

namespace Cuesheet.Instruction

/-- The texts that a pattern hands on to be read. -/
def Pattern.operands (t : Text) : Pattern → List Text
  | .conjunction => (splitAt? "and" t).getD []
  | .disjunction => (splitAt? "or" t).getD []
  | .conditional => ((conditional? t).map fun (condition, action) =>
      [condition, Text.trim action]).getD []
  | .retryUntil => ((retryUntil? t).map Text.trim).toList
  | .report => ((report? t).bind Prod.snd).toList
  | .check _ | .nthChild | .wait | .onFailure => []

variable {t s : Text} {p : Pattern} {reader reader' : Text → Option Clause}

/-- **Nothing but its operands is read for a pattern**: it claims the same where they read the same. -/
theorem claim_congr (h : ∀ s ∈ p.operands t, reader s = reader' s) :
    p.claim reader t = p.claim reader' t := by
  cases p with
  | conjunction =>
    simp only [Pattern.operands] at h
    simp only [Pattern.claim]
    cases hs : splitAt? "and" t with
    | none => rfl
    | some parts =>
      rw [hs, Option.getD_some] at h
      simp only [List.filterMap_congr h]
  | disjunction =>
    simp only [Pattern.operands] at h
    rw [claim_disjunction, claim_disjunction]
    cases hs : splitAt? "or" t with
    | none => rfl
    | some parts =>
      rw [hs, Option.getD_some] at h
      rw [Option.elim_some, Option.elim_some, List.filterMap_congr h]
  | conditional =>
    simp only [Pattern.operands] at h
    simp only [Pattern.claim]
    cases hs : conditional? t with
    | none => rfl
    | some pieces =>
      obtain ⟨condition, action⟩ := pieces
      rw [hs] at h
      have hcondition : reader condition = reader' condition := h _ (List.mem_cons_self ..)
      have haction : reader (Text.trim action) = reader' (Text.trim action) :=
        h _ (List.mem_cons_of_mem _ (List.mem_cons_self ..))
      simp only [hcondition, haction]
  | retryUntil =>
    simp only [Pattern.operands] at h
    simp only [Pattern.claim]
    cases hs : retryUntil? t with
    | none => rfl
    | some condition =>
      rw [hs] at h
      have hcondition : reader (Text.trim condition) = reader' (Text.trim condition) :=
        h _ (List.mem_cons_self ..)
      simp only [hcondition]
  | report =>
    simp only [Pattern.operands] at h
    simp only [Pattern.claim]
    cases hs : report? t with
    | none => rfl
    | some pieces =>
      obtain ⟨message, guard⟩ := pieces
      cases guard with
      | none => rfl
      | some guard =>
        rw [hs] at h
        have hguard : reader guard = reader' guard := h _ (List.mem_cons_self ..)
        simp only [optionalOperand, hguard]
  | check | nthChild | wait | onFailure => rfl

theorem firstClaim_congr {patterns : List Pattern}
    (h : ∀ p ∈ patterns, ∀ s ∈ p.operands t, reader s = reader' s) :
    firstClaim reader t patterns = firstClaim reader' t patterns := by
  induction patterns with
  | nil => rfl
  | cons p patterns ih =>
    obtain ⟨hp, hpatterns⟩ := List.forall_mem_cons.mp h
    rw [firstClaim, firstClaim, claim_congr hp]
    cases p.claim reader' t with
    | pass => exact ih hpatterns
    | clause | reject => rfl

/-! ### Operands are shorter -/

/-- `s` is a piece of the text and not all of it. -/
structure Inside (s t : Text) : Prop where
  isInfix : s <:+: t
  length_lt : s.length < t.length

/-- What stands between two texts that are not both empty lies inside the whole. -/
theorem inside_append {u v : Text} (h : t = u ++ (s ++ v)) (hne : u ≠ [] ∨ v ≠ []) : Inside s t := by
  subst h
  refine ⟨⟨u, v, List.append_assoc ..⟩, ?_⟩
  have hpos : 0 < u.length ∨ 0 < v.length := hne.imp List.length_pos_iff.mpr List.length_pos_iff.mpr
  simp only [List.length_append]
  omega

theorem Inside.trim (h : Inside s t) : Inside (Text.trim s) t :=
  ⟨(Text.trim_isInfix s).trans h.isInfix,
    Nat.lt_of_le_of_lt (Text.trim_isInfix s).length_le h.length_lt⟩

/-- Trimming and lower-casing make no piece of a lower-case text longer. -/
theorem Inside.length_lower_trim_lt (h : Inside s t) (ht : Text.lower t = t) :
    (Text.lower (Text.trim s)).length < t.length := by
  rw [Text.lower_of_isInfix ht h.trim.isInfix]
  exact h.trim.length_lt

/-- A part lacks the separators that cut the text. -/
theorem inside_of_mem_splitAt? {word : Text} (hw : Joint word) {parts : List Text}
    (h : splitAt? word t = some parts) (hs : s ∈ parts) : Inside s t := by
  obtain ⟨u, v, hpart⟩ := part_of_mem_splitAt? hw h hs
  refine ⟨hpart.isInfix, ?_⟩
  have hopen : openSeparators word t ≠ [] := by
    intro hnil
    rw [splitAt?, hnil] at h
    exact absurd h (by simp)
  obtain ⟨separator, spans, hspans⟩ := List.exists_cons_of_ne_nil hopen
  have hmem : separator ∈ openSeparators word t := hspans ▸ List.mem_cons_self ..
  have hbounds := stop_le_length hw (mem_openSeparators.mp hmem).1
  have hlength := congrArg List.length hpart.whole
  simp only [List.length_append] at hlength
  rcases hpart.between separator hmem with hbefore | hafter
  · omega
  · omega

theorem exists_of_mem_getD {found : Option (List Text)} (h : s ∈ found.getD []) :
    ∃ parts, found = some parts ∧ s ∈ parts := by
  cases found with
  | none => exact absurd h List.not_mem_nil
  | some parts => exact ⟨parts, rfl, h⟩

/-- What a pattern hands on lies inside the text. -/
theorem inside_of_mem_operands (hs : s ∈ p.operands t) : Inside s t := by
  cases p with
  | conjunction =>
    obtain ⟨parts, hfound, hs⟩ := exists_of_mem_getD hs
    exact inside_of_mem_splitAt? joint_and hfound hs
  | disjunction =>
    obtain ⟨parts, hfound, hs⟩ := exists_of_mem_getD hs
    exact inside_of_mem_splitAt? joint_or hfound hs
  | conditional =>
    obtain ⟨pieces, hpieces, hs⟩ := exists_of_mem_getD hs
    obtain ⟨⟨condition, action⟩, hfound, rfl⟩ := Option.map_eq_some_iff.mp hpieces
    obtain ⟨-, -, hwhole⟩ := conditional?_eq_some hfound
    obtain ⟨link, hwhole⟩ : ∃ link : Text, t = "if " ++ (condition ++ (link ++ action)) :=
      hwhole.elim (⟨_, ·⟩) (⟨_, ·⟩)
    rcases List.mem_cons.mp hs with rfl | hs
    · exact inside_append hwhole (.inl (by decide))
    · obtain rfl := List.mem_singleton.mp hs
      have haction : t = (("if " : Text) ++ (condition ++ link)) ++ (action ++ []) := by
        simpa only [List.append_assoc, List.append_nil] using hwhole
      exact (inside_append haction (.inl (List.cons_ne_nil _ _))).trim
  | retryUntil =>
    simp only [Pattern.operands, Option.mem_toList, Option.map_eq_some_iff] at hs
    obtain ⟨condition, hfound, rfl⟩ := hs
    have hwhole : t = ("retry until " : Text) ++ (condition ++ []) := by
      rw [List.append_nil]
      exact (retryUntil?_eq_some hfound).1
    exact (inside_append hwhole (.inl (by decide))).trim
  | report =>
    simp only [Pattern.operands, Option.mem_toList, Option.bind_eq_some_iff] at hs
    obtain ⟨⟨message, guard⟩, hfound, rfl⟩ := hs
    obtain ⟨-, q, q', rest, -, -, hwhole, hguard | ⟨operand, hguard, rfl, -⟩⟩ := report?_eq_some hfound
    · exact absurd hguard.1 (by simp)
    · obtain rfl := Option.some.inj hguard
      have hsplit : t = (("report " : Text) ++ q :: (message ++ q' :: (" if " : Text))) ++ (s ++ []) := by
        simpa only [List.append_assoc, List.cons_append, List.append_nil] using hwhole
      exact inside_append hsplit (.inl (List.cons_ne_nil _ _))
  | check | nthChild | wait | onFailure => exact absurd hs List.not_mem_nil

/-! ### Reading ends -/

theorem read_of_lower_trim_eq_nil {x : Text} (h : Text.lower (Text.trim x) = []) (ceiling : Nat) :
    read ceiling x = none := by
  cases ceiling with
  | zero => rfl
  | succ below => rw [read_succ, if_pos h]

/-- Ceilings as high as the text is long read the same. -/
theorem read_eq_of_length_le {x : Text} {ceiling ceiling' : Nat}
    (h : (Text.lower (Text.trim x)).length ≤ ceiling)
    (h' : (Text.lower (Text.trim x)).length ≤ ceiling') : read ceiling x = read ceiling' x := by
  induction ceiling generalizing x ceiling' with
  | zero =>
    have hnil := List.eq_nil_of_length_eq_zero (Nat.le_zero.mp h)
    rw [read_of_lower_trim_eq_nil hnil, read_of_lower_trim_eq_nil hnil]
  | succ below ih =>
    by_cases hnil : Text.lower (Text.trim x) = []
    · rw [read_of_lower_trim_eq_nil hnil, read_of_lower_trim_eq_nil hnil]
    · have hpos := List.length_pos_iff.mpr hnil
      obtain ⟨below', rfl⟩ := Nat.exists_eq_succ_of_ne_zero (n := ceiling') (by omega)
      rw [read_succ, Nat.succ_eq_add_one, read_succ, if_neg hnil, if_neg hnil]
      refine firstClaim_congr fun p _ s hs => ?_
      have hlt := (inside_of_mem_operands hs).length_lower_trim_lt (Text.lower_lower _)
      exact ih (by omega) (by omega)

/-- **Reading ends without the ceiling**: what is handed on is shorter each time, so the length of the
instruction bounds how far it nests. -/
theorem read_settles (x : Text) :
    (∀ p : Pattern, ∀ s ∈ p.operands (Text.lower (Text.trim x)),
      (Text.lower (Text.trim s)).length < (Text.lower (Text.trim x)).length) ∧
    (∀ (p : Pattern) (reader reader' : Text → Option Clause),
      (∀ s ∈ p.operands (Text.lower (Text.trim x)), reader s = reader' s) →
      p.claim reader (Text.lower (Text.trim x)) = p.claim reader' (Text.lower (Text.trim x))) ∧
    ∀ ceiling ceiling', (Text.lower (Text.trim x)).length ≤ ceiling →
      (Text.lower (Text.trim x)).length ≤ ceiling' → read ceiling x = read ceiling' x :=
  ⟨fun _ _ hs => (inside_of_mem_operands hs).length_lower_trim_lt (Text.lower_lower _),
    fun _ _ _ => claim_congr, fun _ _ => read_eq_of_length_le⟩

/-- The dotted capital takes two characters in lower case, which a ceiling has to allow for. -/
theorem read_settles_retry :
    let x : Text := " Retry until İ\n"
    (Text.lower (Text.trim x)).length = 14 ∧ read 14 x = read 99 x ∧
      read 14 x = some (.retryUntil none "i\u0307") :=
  ⟨by decide +kernel, (read_settles _).2.2 14 99 (by decide +kernel) (by decide +kernel),
    by decide +kernel⟩

end Cuesheet.Instruction
