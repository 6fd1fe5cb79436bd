import Cuesheet.Proofs.Instruction.Compound
import Cuesheet.Proofs.Text.Digit

/-!
Numbers in instructions.

A wait and an ordinal find the digits of any script, but only ASCII digits have a value, and it has to
fit: in 64 bits for a wait, in 32 for an ordinal. Where it does not, the instruction is not understood;
no number wraps (`read_amounts`). What is waited for may be worded as any other instruction, since the
patterns before the wait pass a text in which a wait is found.
-/

namespace Cuesheet

namespace Text

/-! ### Digits of any script -/

theorem digitRanges_avoid_case : (digitRanges.all fun r =>
    ((0x130, 0x130) :: (0x3A3, 0x3A3) :: caseRuns.map fun s => (s.first, s.last)).all fun s =>
      r.2.blt s.1 || s.2.blt r.1) = true := by
  decide +kernel

theorem ascii_digit_lower : ∀ n < 0x80, (Char.ofNat n).isDigit = true →
    (Char.ofNat n).toLower = Char.ofNat n := by decide +kernel

/-- Digits have no case. -/
theorem settled_of_isDecimalDigit {c : Char} (h : isDecimalDigit c = true) : Settled c := by
  by_cases hascii : c.toNat < 0x80
  · rw [isDecimalDigit, if_pos hascii] at h
    have hkept := ascii_digit_lower c.toNat hascii
    rw [Char.ofNat_toNat] at hkept
    exact settled_ascii hascii (hkept h)
  · rw [isDecimalDigit, if_neg hascii, inRanges, List.any_eq_true] at h
    obtain ⟨r, hr, hin⟩ := h
    rw [Bool.and_eq_true, decide_eq_true_eq, decide_eq_true_eq] at hin
    have havoid := List.all_eq_true.mp digitRanges_avoid_case r hr
    simp only [List.all_cons, List.all_map, Bool.and_eq_true, Bool.or_eq_true, Nat.blt_eq,
      List.all_eq_true, Function.comp_apply] at havoid
    obtain ⟨hdotted, hsigma, hruns⟩ := havoid
    refine ⟨?_, ?_, lowerChar_of_not_holds hascii fun s hs => ?_⟩
    · rintro rfl
      have hn : 'Σ'.toNat = 0x3A3 := rfl
      omega
    · rintro rfl
      have hn : 'İ'.toNat = 0x130 := rfl
      omega
    · have hapart := hruns s hs
      simp only [CaseRun.holds, Bool.and_eq_false_iff, decide_eq_false_iff_not]
      omega

/-- What is found at the front of a text is the answer. -/
theorem findAtWord_of_find {α : Type} {find : Text → Option α} {t : Text} {a : α} (hne : t ≠ [])
    (h : find t = some a) : findAtWord find false t = some a := by
  obtain ⟨c, t, rfl⟩ := List.exists_cons_of_ne_nil hne
  simp [findAtWord, h]

end Text

namespace Instruction

variable {t digits what : Text}

/-! ### Reading waits and ordinals -/

/-- A wait is read wherever it is found, unless a compound phrase leads the text. -/
theorem Undivided.read_of_wait? (h : Undivided t) (hlead : hasCompoundLead t = false) {unit : Nat}
    (hwait : wait? t = some (digits, unit, what)) (below : Nat) :
    read (below + 1) t = (Text.numeralBelow? timeBound digits).map fun n =>
      .wait (min (n * unit) (timeBound - 1)) (Text.trim what) := by
  have hne : t ≠ [] := by
    rintro rfl
    cases hwait
  have hand : splitAt? "and" t = none := by rw [splitAt?, h.no_and]
  have hor : splitAt? "or" t = none := by rw [splitAt?, h.no_or]
  have hcompound : isCompound t = true := by rw [isCompound, hwait, Option.isSome_some, Bool.or_true]
  have hif : conditional? t = none := by
    cases hfound : conditional? t with
    | none => rfl
    | some pieces =>
      have hphrase : ("if" : Text) ∈ compoundLeads := by decide
      obtain ⟨-, -, rfl | rfl⟩ := conditional?_eq_some hfound
      · exact Bool.noConfusion (hlead.symm.trans (hasCompoundLead_append hphrase))
      · exact Bool.noConfusion (hlead.symm.trans (hasCompoundLead_append hphrase))
  rw [(h.ready hne).read]
  simp only [Pattern.order, Instruction.firstClaim, Pattern.claim, hand, hor, hcompound, hif, hlead,
    hwait, if_true, Bool.false_eq_true, if_false]
  cases Text.numeralBelow? timeBound digits with
  | none => rfl
  | some n => rfl

/-- An ordinal is read wherever it is found, unless a compound phrase or a check claims the text. -/
theorem Undivided.read_of_nthChild? (h : Undivided t) (hcompound : isCompound t = false)
    (hchecks : ∀ comparison, comparison? comparison t = none) (hfind : nthChild? t = some digits)
    (below : Nat) :
    read (below + 1) t = (Text.numeralBelow? childBound digits).map fun n =>
      .predicate (.nthChild n) := by
  have hne : t ≠ [] := by
    rintro rfl
    cases hfind
  have hand : splitAt? "and" t = none := by rw [splitAt?, h.no_and]
  have hor : splitAt? "or" t = none := by rw [splitAt?, h.no_or]
  rw [(h.ready hne).read]
  simp only [Pattern.order, Instruction.firstClaim, Pattern.claim, hand, hor, hcompound, hchecks,
    hfind, Bool.false_eq_true, if_false]
  cases Text.numeralBelow? childBound digits with
  | none => rfl
  | some n => rfl

/-! ### The phrases -/

/-- The words that may stand between a wait and its amount. -/
def waitLeads : List Text := [[], "for ", "up to "]

def ordinals : List Text := ["st", "nd", "rd", "th"]

theorem digits_head (hdigits : ∀ c ∈ digits, Text.isDecimalDigit c = true) (hne : digits ≠ [])
    {lead : Text} {c : Char} (hc : Text.isDecimalDigit c = false) (rest : Text) :
    Text.after? (c :: lead) (digits ++ rest) = none := by
  obtain ⟨d, digits, rfl⟩ := List.exists_cons_of_ne_nil hne
  have hcd : c ≠ d := by
    rintro rfl
    rw [hdigits c (List.mem_cons_self ..)] at hc
    exact Bool.noConfusion hc
  rw [List.cons_append, Text.after?, if_neg hcd]

/-- The amount is found after any of the leads. -/
theorem amount_of_lead (hdigits : ∀ c ∈ digits, Text.isDecimalDigit c = true) (hne : digits ≠ [])
    {lead : Text} (hlead : lead ∈ waitLeads) (rest : Text) :
    ((Text.after? "up to " (lead ++ (digits ++ rest))).orElse fun _ =>
      Text.after? "for " (lead ++ (digits ++ rest))).getD (lead ++ (digits ++ rest)) =
        digits ++ rest := by
  simp only [waitLeads, List.mem_cons, List.not_mem_nil, or_false] at hlead
  rcases hlead with rfl | rfl | rfl
  · have hup : Text.after? "up to " (digits ++ rest) = none :=
      digits_head hdigits hne (by decide) rest
    have hfor : Text.after? "for " (digits ++ rest) = none :=
      digits_head hdigits hne (by decide) rest
    rw [List.nil_append, hup, hfor]
    rfl
  · have hup : Text.after? "up to " ("for " ++ (digits ++ rest)) = none := rfl
    rw [hup, Text.after?_append]
    rfl
  · rw [Text.after?_append]
    rfl

/-- What stands between the digits of a wait and its object. -/
def linkOf (unit : Text × Nat) : Text := " " ++ unit.1 ++ " for "

theorem units_apart : units.Nodup ∧
    ∀ unit ∈ units, ∀ other ∈ units, other ≠ unit → ¬ linkOf other <+: linkOf unit := by decide

/-- No other unit is found where one stands. -/
theorem restAfter?_linkOf_of_ne {unit other : Text × Nat} (hunit : unit ∈ units)
    (hother : other ∈ units) (hne : other ≠ unit) (rest : Text) :
    restAfter? (linkOf other) (linkOf unit ++ rest) = none := by
  rw [Option.eq_none_iff_forall_not_mem]
  intro found hfound
  have hprefix : linkOf other <+: linkOf unit ++ rest := by
    rw [(restAfter?_eq_some_iff.mp hfound).1]
    exact List.prefix_append _ _
  rcases List.prefix_or_prefix_of_prefix hprefix (List.prefix_append (linkOf unit) rest) with h | h
  · exact units_apart.2 unit hunit other hother hne h
  · exact units_apart.2 other hother unit hunit hne.symm h

/-- A wait is found as it is worded. -/
theorem wait?_phrase (hdigits : ∀ c ∈ digits, Text.isDecimalDigit c = true) (hne : digits ≠ [])
    {lead : Text} (hlead : lead ∈ waitLeads) {unit : Text × Nat} (hunit : unit ∈ units)
    (hwhat : what ≠ []) :
    wait? ("wait " ++ (lead ++ (digits ++ (linkOf unit ++ what)))) = some (digits, unit.2, what) := by
  have hspace : ∀ c ∈ (linkOf unit ++ what).head?, Text.isDecimalDigit c = false := by
    intro c hc
    obtain rfl := Option.some.inj hc
    decide
  have hfound : (units.findSome? fun other =>
      (restAfter? (linkOf other) (linkOf unit ++ what)).map fun what =>
        (digits, other.2, what)) = some (digits, unit.2, what) := by
    obtain ⟨before, after, hsplit⟩ := List.append_of_mem hunit
    refine List.findSome?_eq_some_iff.mpr ⟨before, unit, after, hsplit, ?_, fun other hother => ?_⟩
    · rw [restAfter?_eq_some_iff.mpr ⟨rfl, hwhat⟩]
      rfl
    · have hnodup := units_apart.1
      rw [hsplit] at hnodup
      have hdistinct : other ≠ unit :=
        (List.nodup_append.mp hnodup).2.2 other hother unit (List.mem_cons_self ..)
      have hmem : other ∈ units := hsplit ▸ List.mem_append_left _ hother
      rw [restAfter?_linkOf_of_ne hunit hmem hdistinct]
      rfl
  refine Text.findAtWord_of_find (List.cons_ne_nil _ _) ?_
  rw [waitAt?, Text.after?_append, Option.bind_some]
  simp only [amount_of_lead hdigits hne hlead, Text.takeWhile_append_of_head hdigits hspace,
    Text.dropWhile_append_of_head hdigits hspace, hne, if_false]
  exact hfound

/-- An ordinal is found as it is worded. -/
theorem nthChild?_phrase (hdigits : ∀ c ∈ digits, Text.isDecimalDigit c = true) (hne : digits ≠ [])
    {ordinal : Text} (hordinal : ordinal ∈ ordinals) :
    nthChild? ("is the " ++ (digits ++ (ordinal ++ " child"))) = some digits := by
  have hletter : ∀ c ∈ (ordinal ++ " child" : Text).head?, Text.isDecimalDigit c = false := by
    have hletters : ∀ ordinal ∈ ordinals,
        (ordinal ++ " child" : Text).head?.any Text.isDecimalDigit = false := by decide
    intro c hc
    have hletter := hletters ordinal hordinal
    rwa [hc, Option.any_some] at hletter
  have hends : (ordinals.any fun other =>
      (Text.after? (other ++ " child") (ordinal ++ " child")).any Text.wordEnds) = true := by
    refine List.any_eq_true.mpr ⟨ordinal, hordinal, ?_⟩
    have hrest := Text.after?_append (ordinal ++ " child") []
    rw [List.append_nil] at hrest
    rw [hrest]
    rfl
  refine Text.findAtWord_of_find (List.cons_ne_nil _ _) ?_
  rw [childAt?, Text.after?_append, Option.bind_some]
  simp only [Text.takeWhile_append_of_head hdigits hletter,
    Text.dropWhile_append_of_head hdigits hletter]
  refine if_pos ?_
  rw [Bool.and_eq_true]
  exact ⟨decide_eq_true hne, hends⟩

/-! ### Nothing else claims the phrases -/

/-- A separating word one of whose letters the text lacks does not cut it. -/
theorem openSeparators_eq_nil_of_not_mem {word : Text} (hw : Joint word) {c : Char} (hc : c ∈ word)
    (h : c ∉ t) : openSeparators word t = [] := by
  rw [openSeparators_eq_nil_iff hw]
  rintro j ⟨gap, hgap, hprefix⟩
  obtain ⟨before, after, rfl, -⟩ := hgap.split
  have hmem : c ∈ t.drop j := hprefix.subset (by simp [hc])
  exact absurd (List.mem_of_mem_drop hmem) h

theorem wait?_of_not_mem (h : 'w' ∉ t) : wait? t = none := by
  cases hfound : wait? t with
  | none => rfl
  | some found =>
    obtain ⟨u, v, rfl, hv⟩ := findAtWord_eq_some hfound
    obtain ⟨lead, -, name, -, -, -, -, rfl⟩ := waitAt?_eq_some hv
    have hmem : 'w' ∈ ("wait " : Text) := by decide
    exact absurd (List.mem_append_right u (List.mem_append_left _ hmem)) h

theorem comparison?_of_not_mem (ho : 'o' ∉ t) (hw : 'w' ∉ t) (comparison : Comparison) :
    comparison? comparison t = none := by
  cases hfound : comparison? comparison t with
  | none => rfl
  | some found =>
    obtain ⟨u, v, rfl, hv⟩ := afterNames_eq_some hfound
    obtain ⟨-, rest, -, -, rfl⟩ := bareComparison?_eq_some hv
    have hletter : 'o' ∈ comparison.phrase ∨ 'w' ∈ comparison.phrase := by
      cases comparison <;> decide
    rcases hletter with hmem | hmem
    · exact absurd (by simp [hmem]) ho
    · exact absurd (by simp [hmem]) hw

/-! ### The phrases as they are read -/

theorem lower_digits (hdigits : ∀ c ∈ digits, Text.isDecimalDigit c = true) :
    Text.lower digits = digits :=
  Text.lower_eq_self_iff.mpr fun c hc => Text.settled_of_isDecimalDigit (hdigits c hc)

/-- A wait that neither separating word cuts is undivided. -/
theorem undivided_wait (hdigits : ∀ c ∈ digits, Text.isDecimalDigit c = true) {lead : Text}
    (hlead : lead ∈ waitLeads) {unit : Text × Nat} (hunit : unit ∈ units) (hwhat : what ≠ [])
    (htrim : Text.trim what = what) (hlower : Text.lower what = what)
    (hand : splitAt? "and" ("wait " ++ (lead ++ (digits ++ (linkOf unit ++ what)))) = none)
    (hor : splitAt? "or" ("wait " ++ (lead ++ (digits ++ (linkOf unit ++ what)))) = none) :
    Undivided ("wait " ++ (lead ++ (digits ++ (linkOf unit ++ what)))) := by
  have hlast : ("wait " ++ (lead ++ (digits ++ (linkOf unit ++ what)))).getLast? =
      what.getLast? := by
    simp only [List.getLast?_append, List.getLast?_eq_some_getLast hwhat, Option.some_or]
  have hwords : (∀ lead ∈ waitLeads, Text.lower lead = lead) ∧
      ∀ unit ∈ units, Text.lower (linkOf unit) = linkOf unit := by decide +kernel
  refine ⟨Text.trim_eq_self_iff.mpr ⟨?_, ?_⟩, ?_, ?_, ?_⟩
  · intro c hc
    obtain rfl := Option.some.inj hc
    decide
  · rw [hlast]
    exact (Text.trim_eq_self_iff.mp htrim).last
  · simp only [Text.lower_eq_self_iff, List.forall_mem_append]
    simp only [← Text.lower_eq_self_iff]
    exact ⟨by decide +kernel, hwords.1 lead hlead, lower_digits hdigits, hwords.2 unit hunit, hlower⟩
  · rwa [openSeparators_eq_nil_iff joint_and, ← splitAt?_eq_none_iff joint_and]
  · rwa [openSeparators_eq_nil_iff joint_or, ← splitAt?_eq_none_iff joint_or]

/-- An ordinal lacks the letters of the separating words, of a wait and of a check. -/
theorem letters_of_ordinal (hdigits : ∀ c ∈ digits, Text.isDecimalDigit c = true) {ordinal : Text}
    (hordinal : ordinal ∈ ordinals) {c : Char} (hc : c ∈ ['a', 'o', 'w']) :
    c ∉ "is the " ++ (digits ++ (ordinal ++ " child")) := by
  obtain ⟨hdigit, hfront, hback⟩ : Text.isDecimalDigit c = false ∧ c ∉ ("is the " : Text) ∧
      ∀ ordinal ∈ ordinals, c ∉ (ordinal ++ " child" : Text) := by
    simp only [List.mem_cons, List.not_mem_nil, or_false] at hc
    rcases hc with rfl | rfl | rfl
    · decide
    · decide
    · decide
  intro hmem
  rcases List.mem_append.mp hmem with hmem | hmem
  · exact hfront hmem
  · rcases List.mem_append.mp hmem with hmem | hmem
    · rw [hdigits c hmem] at hdigit
      exact Bool.noConfusion hdigit
    · exact hback ordinal hordinal hmem

theorem undivided_ordinal (hdigits : ∀ c ∈ digits, Text.isDecimalDigit c = true) {ordinal : Text}
    (hordinal : ordinal ∈ ordinals) :
    Undivided ("is the " ++ (digits ++ (ordinal ++ " child"))) := by
  have hlast : ("is the " ++ (digits ++ (ordinal ++ " child")) : Text).getLast? = some 'd' := by
    simp only [List.getLast?_append]
    rfl
  have hwords : ∀ ordinal ∈ ordinals, Text.lower ordinal = ordinal := by decide +kernel
  refine ⟨Text.trim_eq_self_iff.mpr ⟨?_, ?_⟩, ?_, ?_, ?_⟩
  · intro c hc
    obtain rfl := Option.some.inj hc
    decide
  · intro c hc
    rw [hlast] at hc
    obtain rfl := Option.some.inj hc
    decide
  · simp only [Text.lower_eq_self_iff, List.forall_mem_append]
    simp only [← Text.lower_eq_self_iff]
    exact ⟨by decide +kernel, lower_digits hdigits, hwords ordinal hordinal, by decide +kernel⟩
  · exact openSeparators_eq_nil_of_not_mem joint_and (by decide : 'a' ∈ ("and" : Text))
      (letters_of_ordinal hdigits hordinal (by decide))
  · exact openSeparators_eq_nil_of_not_mem joint_or (by decide : 'o' ∈ ("or" : Text))
      (letters_of_ordinal hdigits hordinal (by decide))

/-- How long a wait is, in milliseconds: whole seconds stop at the bound. -/
def milliseconds (unit : Text) (n : Nat) : Nat :=
  if unit = "seconds" ∨ unit = "second" then min (1000 * n) (Nat.pow 2 64 - 1) else n

theorem milliseconds_eq {unit : Text × Nat} (hunit : unit ∈ units) {n : Nat} (hn : n < timeBound) :
    min (n * unit.2) (timeBound - 1) = milliseconds unit.1 n := by
  have hbound : timeBound = Nat.pow 2 64 := rfl
  simp only [units, List.mem_cons, List.not_mem_nil, or_false] at hunit
  rcases hunit with rfl | rfl | rfl | rfl
  · rw [milliseconds, if_pos (by decide), Nat.mul_comm, hbound]
  · rw [milliseconds, if_pos (by decide), Nat.mul_comm, hbound]
  · rw [milliseconds, if_neg (by decide)]
    omega
  · rw [milliseconds, if_neg (by decide)]
    omega

/-- **Numbers in instructions never wrap.** -/
theorem read_amounts (hdigits : ∀ c ∈ digits, Text.isDecimalDigit c = true) (hne : digits ≠ [])
    (below : Nat) :
    (∀ lead ∈ waitLeads, ∀ unit ∈ (["seconds", "second", "ms", "milliseconds"] : List Text),
      ∀ what : Text, what ≠ [] → Text.trim what = what → Text.lower what = what →
      splitAt? "and" ("wait " ++ (lead ++ (digits ++ (" " ++ unit ++ " for " ++ what)))) = none →
      splitAt? "or" ("wait " ++ (lead ++ (digits ++ (" " ++ unit ++ " for " ++ what)))) = none →
      read (below + 1) ("wait " ++ (lead ++ (digits ++ (" " ++ unit ++ " for " ++ what)))) =
        if digits.all Char.isDigit = true ∧ Nat.ofDigitChars 10 digits 0 < Nat.pow 2 64
        then some (.wait (milliseconds unit (Nat.ofDigitChars 10 digits 0)) what) else none) ∧
    ∀ ordinal ∈ ordinals,
      read (below + 1) ("is the " ++ (digits ++ (ordinal ++ " child"))) =
        if digits.all Char.isDigit = true ∧ Nat.ofDigitChars 10 digits 0 < Nat.pow 2 32
        then some (.predicate (.nthChild (Nat.ofDigitChars 10 digits 0))) else none := by
  constructor
  · intro lead hlead name hname what hwhat htrim hlower hand hor
    obtain ⟨unit, hunit, rfl⟩ : ∃ unit ∈ units, unit.1 = name := List.mem_map.mp hname
    have hwhole := undivided_wait hdigits hlead hunit hwhat htrim hlower hand hor
    have hread := hwhole.read_of_wait? rfl (wait?_phrase hdigits hne hlead hunit hwhat) below
    refine hread.trans ?_
    rw [Text.numeralBelow?_eq hne, show timeBound = Nat.pow 2 64 from rfl]
    split
    next hfits =>
      rw [Option.map_some, htrim]
      exact congrArg (fun n => some (Clause.wait n what)) (milliseconds_eq hunit hfits.2)
    next => rfl
  · intro ordinal hordinal
    have hwhole := undivided_ordinal hdigits hordinal
    have hno : ∀ c ∈ ['a', 'o', 'w'], c ∉ "is the " ++ (digits ++ (ordinal ++ " child")) :=
      fun c hc => letters_of_ordinal hdigits hordinal hc
    have hcompound : isCompound ("is the " ++ (digits ++ (ordinal ++ " child"))) = false := by
      rw [isCompound, wait?_of_not_mem (hno 'w' (by decide))]
      rfl
    rw [hwhole.read_of_nthChild? hcompound
      (comparison?_of_not_mem (hno 'o' (by decide)) (hno 'w' (by decide)))
      (nthChild?_phrase hdigits hne hordinal), Text.numeralBelow?_eq hne,
      show childBound = Nat.pow 2 32 from rfl]
    split
    next => rfl
    next => rfl

/-- A number of seconds that fits only before it is converted, and a digit beyond ASCII. -/
theorem read_amounts_at_bounds :
    let digits : Text := "0018446744073709552"
    let foreign : Text := "1٣"
    let what : Text := "the first row"
    read 1 ("wait " ++ ("up to " ++ (digits ++ (" " ++ "seconds" ++ " for " ++ what)))) =
        some (.wait 18446744073709551615 what) ∧
      read 1 ("is the " ++ (digits ++ ("nd" ++ " child"))) = none ∧
      read 1 ("wait " ++ ("for " ++ (foreign ++ (" " ++ "ms" ++ " for " ++ what)))) = none ∧
      read 1 ("is the " ++ (foreign ++ ("rd" ++ " child"))) = none := by
  intro digits foreign what
  have hdigits : ∀ c ∈ digits, Text.isDecimalDigit c = true := List.all_eq_true.mp (by decide +kernel)
  have hforeign : ∀ c ∈ foreign, Text.isDecimalDigit c = true := List.all_eq_true.mp (by decide +kernel)
  obtain ⟨hwait, hchild⟩ := read_amounts hdigits (by decide) 0
  obtain ⟨hwaitForeign, hchildForeign⟩ := read_amounts hforeign (by decide) 0
  obtain ⟨hne, htrim, hlower⟩ : what ≠ [] ∧ Text.trim what = what ∧ Text.lower what = what := by
    decide +kernel
  refine ⟨?_, ?_, ?_, ?_⟩
  · exact (hwait "up to " (by decide) "seconds" (by decide) what hne htrim hlower (by decide +kernel)
      (by decide +kernel)).trans (by decide +kernel)
  · exact (hchild "nd" (by decide)).trans (by decide +kernel)
  · exact (hwaitForeign "for " (by decide) "ms" (by decide) what hne htrim hlower (by decide +kernel)
      (by decide +kernel)).trans (by decide +kernel)
  · exact (hchildForeign "rd" (by decide)).trans (by decide +kernel)

end Instruction

end Cuesheet
