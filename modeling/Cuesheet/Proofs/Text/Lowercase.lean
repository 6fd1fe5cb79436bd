import Cuesheet.Text.Lowercase
import Cuesheet.Proofs.Text.Blank

/-!
Lower-case texts.

A character is *settled* if lower-casing keeps it wherever it stands. Lower-casing gives settled
characters only, and keeps a text exactly if all its characters are settled; so it changes no piece
of a lower-case text (`lower_of_isInfix`). It makes no blank and moves none, so a text without outer
blanks stays one (`Trimmed.lower`), and it makes no punctuation (`IsMark.mem_of_mem_lower`).
-/

namespace Cuesheet.Text

/-! ### The table of partners -/

/-- Whether the code point has a partner in the run. -/
def CaseRun.holds (r : CaseRun) (n : Nat) : Bool :=
  r.first ≤ n && n ≤ r.last && (n - r.first) % r.step = 0

/-- The partner of the `k`-th character of the run. -/
def CaseRun.partner (r : CaseRun) (k : Nat) : Nat := r.target + k * r.step

def CaseRun.size (r : CaseRun) : Nat := (r.last - r.first) / r.step + 1

/-- A bound on the partners of the run. -/
def CaseRun.top (r : CaseRun) : Nat := r.target + (r.last - r.first)

/-- Whether no partner of the run has a partner in the run `s`. The bounds alone nearly always tell. -/
def CaseRun.avoids (r s : CaseRun) : Bool :=
  r.top.blt s.first || s.last.blt r.target ||
    (List.range r.size).all fun k => !s.holds (r.partner k)

/-- Whether the partners of the run are characters other than blanks and the dotted capital `I`, and
no ASCII capitals. -/
def CaseRun.settles (r : CaseRun) : Bool :=
  (r.top.blt 0xD800 || (Nat.blt 0xDFFF r.target && r.top.blt 0x110000)) &&
    ((0x130, 0x130) :: blankRanges).all (fun s => r.top.blt s.1 || s.2.blt r.target) &&
    (Nat.ble 0x80 r.target ||
      (r.first == r.last && (Char.ofNat r.target).toLower == Char.ofNat r.target))

theorem caseRuns_avoid : (caseRuns.all fun r => caseRuns.all r.avoids) = true := by decide +kernel

theorem caseRuns_settle : caseRuns.all CaseRun.settles = true := by decide +kernel

theorem ascii_settle : ∀ n < 0x80, (Char.ofNat n).toLower.toNat < 0x80 ∧
    (Char.ofNat n).toLower.toLower = (Char.ofNat n).toLower ∧
    isBlank (Char.ofNat n).toLower = isBlank (Char.ofNat n) := by decide +kernel

/-! ### Single characters -/

/-- Lower-casing keeps the character wherever it stands. -/
structure Settled (c : Char) : Prop where
  not_sigma : c ≠ 'Σ'
  not_dotted : c ≠ 'İ'
  kept : lowerChar c = c

theorem lowerChar_ascii {c : Char} (h : c.toNat < 0x80) : lowerChar c = c.toLower := by
  simp [lowerChar, h]

theorem settled_ascii {c : Char} (h : c.toNat < 0x80) (hc : c.toLower = c) : Settled c := by
  refine ⟨?_, ?_, by rw [lowerChar_ascii h, hc]⟩
  · rintro rfl
    exact absurd h (by decide)
  · rintro rfl
    exact absurd h (by decide)

/-- A character that no run holds is its own partner. -/
theorem lowerChar_of_not_holds {c : Char} (h : ¬ c.toNat < 0x80)
    (hr : ∀ r ∈ caseRuns, r.holds c.toNat = false) : lowerChar c = c := by
  have hfind : caseRuns.find? (fun r => r.holds c.toNat) = none := by
    rw [List.find?_eq_none]
    intro r hmem
    simp [hr r hmem]
  simp only [lowerChar, h, if_false]
  split
  next r he => exact absurd (he.symm.trans hfind) (by simp)
  next => rfl

/-- The lower-case partner of a character beyond ASCII: itself, or a partner in a run. -/
theorem lowerChar_cases {c : Char} (h : ¬ c.toNat < 0x80) :
    lowerChar c = c ∧ (∀ r ∈ caseRuns, r.holds c.toNat = false) ∨
      ∃ r ∈ caseRuns, ∃ k < r.size, lowerChar c = Char.ofNat (r.partner k) := by
  by_cases hr : ∀ r ∈ caseRuns, r.holds c.toNat = false
  · exact .inl ⟨lowerChar_of_not_holds h hr, hr⟩
  · right
    simp only [lowerChar, h, if_false]
    split
    next r he =>
      have hholds := List.find?_some he
      simp only [Bool.and_eq_true, decide_eq_true_eq] at hholds
      obtain ⟨⟨hfirst, hlast⟩, hstep⟩ := hholds
      have hk := Nat.div_mul_cancel (Nat.dvd_of_mod_eq_zero hstep)
      refine ⟨r, List.mem_of_find?_eq_some he, (c.toNat - r.first) / r.step, ?_, ?_⟩
      · exact Nat.lt_succ_of_le (Nat.div_le_div_right (Nat.sub_le_sub_right hlast _))
      · rw [CaseRun.partner, hk]
    next he =>
      exact absurd (fun r hmem => by simpa [CaseRun.holds] using List.find?_eq_none.mp he r hmem) hr

theorem partner_le_top {r : CaseRun} {k : Nat} (hk : k < r.size) : r.partner k ≤ r.top :=
  Nat.add_le_add_left
    ((Nat.mul_le_mul_right r.step (Nat.le_of_lt_succ hk)).trans (Nat.div_mul_le_self _ _)) _

theorem target_le_partner (r : CaseRun) (k : Nat) : r.target ≤ r.partner k := Nat.le_add_right _ _

/-- A run of one character has one partner. -/
theorem partner_eq_target {r : CaseRun} {k : Nat} (hk : k < r.size) (hone : r.first = r.last) :
    r.partner k = r.target := by
  have htop := partner_le_top hk
  rw [CaseRun.top, hone, Nat.sub_self, Nat.add_zero] at htop
  exact Nat.le_antisymm htop (target_le_partner r k)

/-- No partner has a partner of its own. -/
theorem not_holds_partner {r s : CaseRun} {k : Nat} (hr : r ∈ caseRuns) (hs : s ∈ caseRuns)
    (hk : k < r.size) : s.holds (r.partner k) = false := by
  have havoid := List.all_eq_true.mp (List.all_eq_true.mp caseRuns_avoid r hr) s hs
  have htop := partner_le_top hk
  have htarget := target_le_partner r k
  simp only [CaseRun.avoids, Bool.or_eq_true, Nat.blt_eq, List.all_eq_true, List.mem_range,
    Bool.not_eq_eq_eq_not, Bool.not_true] at havoid
  rcases havoid with (hbelow | habove) | heach
  · simp only [CaseRun.holds, Bool.and_eq_false_iff, decide_eq_false_iff_not]
    omega
  · simp only [CaseRun.holds, Bool.and_eq_false_iff, decide_eq_false_iff_not]
    omega
  · exact heach k hk

/-- Partners are characters, and neither blanks nor ASCII capitals nor the dotted capital `I`. -/
theorem partner_plain {r : CaseRun} {k : Nat} (hr : r ∈ caseRuns) (hk : k < r.size) :
    (r.partner k).isValidChar ∧ r.partner k ≠ 0x130 ∧ inRanges blankRanges (r.partner k) = false ∧
      (0x80 ≤ r.partner k ∨ (Char.ofNat (r.partner k)).toLower = Char.ofNat (r.partner k)) := by
  have hsettles := List.all_eq_true.mp caseRuns_settle r hr
  have htop := partner_le_top hk
  have htarget := target_le_partner r k
  simp only [CaseRun.settles, List.all_cons, Bool.and_eq_true, Bool.or_eq_true, Nat.blt_eq,
    Nat.ble_eq, List.all_eq_true, beq_iff_eq] at hsettles
  obtain ⟨⟨hvalid, hdotted, hblank⟩, hascii⟩ := hsettles
  refine ⟨?_, by omega, ?_, ?_⟩
  · rw [Nat.isValidChar]
    omega
  · simp only [inRanges, List.any_eq_false, Bool.and_eq_true, decide_eq_true_eq]
    intro s hs
    have := hblank s hs
    omega
  · rcases hascii with h80 | ⟨hone, hkept⟩
    · exact .inl (by omega)
    · exact .inr (by rw [partner_eq_target hk hone]; exact hkept)

theorem toNat_partner {r : CaseRun} {k : Nat} (hr : r ∈ caseRuns) (hk : k < r.size) :
    (Char.ofNat (r.partner k)).toNat = r.partner k := by
  rw [Char.ofNat, dif_pos (partner_plain hr hk).1]
  rfl

theorem partner_settled {r : CaseRun} {k : Nat} (hr : r ∈ caseRuns) (hk : k < r.size) :
    Settled (Char.ofNat (r.partner k)) ∧ isBlank (Char.ofNat (r.partner k)) = false := by
  obtain ⟨-, hdotted, hblank, hascii⟩ := partner_plain hr hk
  have hn := toNat_partner hr hk
  refine ⟨?_, by rw [isBlank, hn]; exact hblank⟩
  by_cases h80 : r.partner k < 0x80
  · exact settled_ascii (by rw [hn]; exact h80) (hascii.resolve_left (by omega))
  · have hnone : ∀ s ∈ caseRuns, s.holds (Char.ofNat (r.partner k)).toNat = false := by
      intro s hs
      rw [hn]
      exact not_holds_partner hr hs hk
    refine ⟨?_, ?_, lowerChar_of_not_holds (by rw [hn]; exact h80) hnone⟩
    · intro hsigma
      rw [hsigma] at hnone
      exact absurd hnone (by decide)
    · intro hi
      rw [hi] at hn
      exact hdotted hn.symm

/-- Lower-casing a character that has one partner gives a settled character. -/
theorem settled_lowerChar {c : Char} (hs : c ≠ 'Σ') (hi : c ≠ 'İ') : Settled (lowerChar c) := by
  by_cases h : c.toNat < 0x80
  · obtain ⟨hlt, hidem, _⟩ := ascii_settle c.toNat h
    rw [Char.ofNat_toNat] at hlt hidem
    rw [lowerChar_ascii h]
    exact settled_ascii hlt hidem
  · rcases lowerChar_cases h with ⟨hkept, _⟩ | ⟨r, hr, k, hk, he⟩
    · rw [hkept]
      exact ⟨hs, hi, hkept⟩
    · rw [he]
      exact (partner_settled hr hk).1

theorem isBlank_lowerChar {c : Char} (h : isBlank c = false) : isBlank (lowerChar c) = false := by
  by_cases h80 : c.toNat < 0x80
  · have hkeep := (ascii_settle c.toNat h80).2.2
    rw [Char.ofNat_toNat] at hkeep
    rw [lowerChar_ascii h80, hkeep, h]
  · rcases lowerChar_cases h80 with ⟨hkept, _⟩ | ⟨r, hr, k, hk, he⟩
    · rw [hkept, h]
    · rw [he]
      exact (partner_settled hr hk).2

/-! ### Texts -/

/-- Lower-casing keeps exactly the texts of settled characters. -/
theorem lowerFrom_eq_self_iff {b : Bool} {t : Text} :
    lowerFrom b t = t ↔ ∀ c ∈ t, Settled c := by
  induction t generalizing b with
  | nil => simp [lowerFrom]
  | cons c t ih =>
    rw [List.forall_mem_cons]
    constructor
    · intro h
      simp only [lowerFrom] at h
      split at h
      · next hs =>
        split at h <;> exact absurd (List.cons.inj h).1 (by rw [hs]; decide)
      · next hs =>
        split at h
        · next hi => exact absurd (List.cons.inj h).1 (by rw [hi]; decide)
        · next hi =>
          obtain ⟨hc, ht⟩ := List.cons.inj h
          exact ⟨⟨hs, hi, hc⟩, ih.mp ht⟩
    · rintro ⟨hc, ht⟩
      rw [lowerFrom, if_neg hc.not_sigma, if_neg hc.not_dotted, hc.kept]
      exact congrArg (c :: ·) (ih.mpr ht)

theorem lower_eq_self_iff {t : Text} : lower t = t ↔ ∀ c ∈ t, Settled c := lowerFrom_eq_self_iff

theorem settled_of_mem_lowerFrom {b : Bool} {t : Text} : ∀ c ∈ lowerFrom b t, Settled c := by
  induction t generalizing b with
  | nil => simp [lowerFrom]
  | cons c t ih =>
    simp only [lowerFrom]
    split
    · rw [List.forall_mem_cons]
      refine ⟨?_, ih⟩
      split
      · exact ⟨by decide, by decide, by decide⟩
      · exact ⟨by decide, by decide, by decide⟩
    · next hs =>
      split
      · rw [List.forall_mem_cons, List.forall_mem_cons]
        exact ⟨⟨by decide, by decide, by decide⟩, ⟨by decide, by decide, by decide⟩, ih⟩
      · next hi =>
        rw [List.forall_mem_cons]
        exact ⟨settled_lowerChar hs hi, ih⟩

/-- **Lower-casing changes nothing more the second time.** -/
theorem lower_lower (t : Text) : lower (lower t) = lower t :=
  lower_eq_self_iff.mpr settled_of_mem_lowerFrom

/-- A piece of a lower-case text is lower-case, although a sigma may stand at its end. -/
theorem lower_of_isInfix {s t : Text} (ht : lower t = t) (hs : s <:+: t) : lower s = s :=
  lower_eq_self_iff.mpr fun c hc => lower_eq_self_iff.mp ht c (hs.mem hc)

/-- What becomes of a text's first character: not nothing, and no blank unless it is one. -/
theorem exists_lowerFrom_cons (b : Bool) (c : Char) (t : Text) :
    ∃ out b', lowerFrom b (c :: t) = out ++ lowerFrom b' t ∧ out ≠ [] ∧
      (isBlank c = false → ∀ d ∈ out, isBlank d = false) := by
  by_cases hs : c = 'Σ'
  · refine ⟨[if b && !casedAhead t then 'ς' else 'σ'], _, by rw [lowerFrom, if_pos hs]; rfl,
      by simp, fun _ => ?_⟩
    rw [List.forall_mem_singleton]
    split <;> decide
  · by_cases hi : c = 'İ'
    · exact ⟨['i', '\u0307'], _, by rw [lowerFrom, if_neg hs, if_pos hi]; rfl, by simp,
        fun _ => forall_of_any_eq_false (by decide)⟩
    · refine ⟨[lowerChar c], _, by rw [lowerFrom, if_neg hs, if_neg hi]; rfl, by simp, ?_⟩
      intro hc d hd
      rw [List.mem_singleton.mp hd]
      exact isBlank_lowerChar hc

theorem head?_lowerFrom {b : Bool} {t : Text} (h : ∀ c ∈ t.head?, isBlank c = false) :
    ∀ c ∈ (lowerFrom b t).head?, isBlank c = false := by
  cases t with
  | nil => simp [lowerFrom]
  | cons c t =>
    obtain ⟨out, b', he, hne, hblank⟩ := exists_lowerFrom_cons b c t
    obtain ⟨d, out, rfl⟩ := List.exists_cons_of_ne_nil hne
    rw [he]
    simpa using hblank (h c rfl) d (List.mem_cons_self ..)

theorem getLast?_lowerFrom {b : Bool} {t : Text} (h : ∀ c ∈ t.getLast?, isBlank c = false) :
    ∀ c ∈ (lowerFrom b t).getLast?, isBlank c = false := by
  induction t generalizing b with
  | nil => simp [lowerFrom]
  | cons c t ih =>
    obtain ⟨out, b', he, _, hblank⟩ := exists_lowerFrom_cons b c t
    rw [he]
    cases t with
    | nil =>
      intro d hd
      rw [lowerFrom, List.append_nil] at hd
      exact hblank (h c rfl) d (List.mem_of_getLast? hd)
    | cons c' t =>
      obtain ⟨out', b'', he', hne', _⟩ := exists_lowerFrom_cons b' c' t
      have hrest : lowerFrom b' (c' :: t) ≠ [] := by
        rw [he']
        simp [hne']
      have hlast := ih (b := b') (by simpa [List.getLast?_cons] using h)
      rw [List.getLast?_eq_some_getLast hrest] at hlast
      simpa [List.getLast?_eq_some_getLast hrest] using hlast

/-- Lower-casing moves no blank to the ends of a text. -/
theorem Trimmed.lower {t : Text} (h : Trimmed t) : Trimmed (lower t) :=
  ⟨head?_lowerFrom h.head, getLast?_lowerFrom h.last⟩

/-- What lower-casing brings into a text comes of a capital sigma, a dotted capital `I` or a letter with
another partner; any other character was there before. -/
theorem mem_of_mem_lower_of_kept {c : Char} (hspecial : c ∉ ['ς', 'σ', 'i', '\u0307'])
    (hkept : ∀ d, lowerChar d = c → d = c) {t : Text} (h : c ∈ lower t) : c ∈ t := by
  have hfrom : ∀ b, c ∈ lowerFrom b t → c ∈ t := by
    clear h
    induction t with
    | nil => exact fun _ h => h
    | cons d t ih =>
      intro b h
      simp only [lowerFrom] at h
      split at h
      · rcases List.mem_cons.mp h with rfl | h
        · exact absurd (by split <;> simp) hspecial
        · exact List.mem_cons_of_mem d (ih _ h)
      · split at h
        · rcases List.mem_cons.mp h with rfl | h
          · exact absurd (by simp) hspecial
          · rcases List.mem_cons.mp h with rfl | h
            · exact absurd (by simp) hspecial
            · exact List.mem_cons_of_mem d (ih _ h)
        · rcases List.mem_cons.mp h with he | h
          · exact hkept d he.symm ▸ List.mem_cons_self ..
          · exact List.mem_cons_of_mem d (ih _ h)
  exact hfrom false h

/-! ### Marks -/

/-- A character of ASCII that is no letter. -/
structure IsMark (c : Char) : Prop where
  ascii : c.toNat < 0x80
  not_alpha : c.isAlpha = false

/-- Whether the partners of the run are ASCII letters or lie beyond ASCII. -/
def CaseRun.makesLetters (r : CaseRun) : Bool :=
  Nat.ble 0x80 r.target || (r.first == r.last && (Char.ofNat r.target).isAlpha)

theorem caseRuns_makeLetters : caseRuns.all CaseRun.makesLetters = true := by decide +kernel

theorem ascii_toLower_mark : ∀ n < 0x80, (Char.ofNat n).toLower.isAlpha = true ∨
    (Char.ofNat n).toLower = Char.ofNat n := by decide +kernel

/-- Only a mark becomes a mark. -/
theorem IsMark.eq_of_lowerChar {c : Char} (h : IsMark (lowerChar c)) : lowerChar c = c := by
  by_cases h80 : c.toNat < 0x80
  · have hletter := ascii_toLower_mark c.toNat h80
    rw [Char.ofNat_toNat] at hletter
    rw [lowerChar_ascii h80] at h ⊢
    exact hletter.resolve_left (by simp [h.not_alpha])
  · rcases lowerChar_cases h80 with ⟨hkept, _⟩ | ⟨r, hr, k, hk, he⟩
    · exact hkept
    · exfalso
      have hmakes := List.all_eq_true.mp caseRuns_makeLetters r hr
      simp only [CaseRun.makesLetters, Bool.or_eq_true, Nat.ble_eq, Bool.and_eq_true, beq_iff_eq]
        at hmakes
      obtain ⟨hascii, hnot⟩ := he ▸ h
      rcases hmakes with hbeyond | ⟨hone, halpha⟩
      · have htarget := target_le_partner r k
        rw [toNat_partner hr hk] at hascii
        omega
      · rw [partner_eq_target hk hone, halpha] at hnot
        exact Bool.noConfusion hnot

/-- Lower-casing brings no mark into a text. -/
theorem IsMark.mem_of_mem_lower {c : Char} {t : Text} (hc : IsMark c) (h : c ∈ lower t) : c ∈ t := by
  refine mem_of_mem_lower_of_kept ?_ (fun d hd => ?_) h
  · rintro hmem
    simp only [List.mem_cons, List.not_mem_nil, or_false] at hmem
    rcases hmem with rfl | rfl | rfl | rfl
    · exact absurd hc.ascii (by decide)
    · exact absurd hc.ascii (by decide)
    · exact absurd hc.not_alpha (by decide)
    · exact absurd hc.ascii (by decide)
  · subst hd
    exact hc.eq_of_lowerChar.symm

/-! ### Blanks -/

theorem ascii_toLower_blank : ∀ n < 0x80, isBlank (Char.ofNat n).toLower = true →
    (Char.ofNat n).toLower = Char.ofNat n := by decide +kernel

/-- Only a blank becomes a blank. -/
theorem lowerChar_eq_of_isBlank {c : Char} (h : isBlank (lowerChar c) = true) : lowerChar c = c := by
  by_cases h80 : c.toNat < 0x80
  · have hkeep := ascii_toLower_blank c.toNat h80
    rw [Char.ofNat_toNat] at hkeep
    rw [lowerChar_ascii h80] at h ⊢
    exact hkeep h
  · rcases lowerChar_cases h80 with ⟨hkept, _⟩ | ⟨r, hr, k, hk, he⟩
    · exact hkept
    · rw [he, (partner_settled hr hk).2] at h
      exact Bool.noConfusion h

/-- Lower-casing brings no blank into a text. -/
theorem mem_of_mem_lower_of_isBlank {c : Char} {t : Text} (hc : isBlank c = true) (h : c ∈ lower t) :
    c ∈ t := by
  refine mem_of_mem_lower_of_kept (fun hmem => ?_) (fun d hd => ?_) h
  · have hnone : ∀ d ∈ ['ς', 'σ', 'i', '\u0307'], isBlank d = false := by decide
    rw [hnone c hmem] at hc
    exact Bool.noConfusion hc
  · subst hd
    exact (lowerChar_eq_of_isBlank hc).symm

end Cuesheet.Text
