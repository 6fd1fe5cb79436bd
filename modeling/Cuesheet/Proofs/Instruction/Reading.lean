import Cuesheet.Instruction
import Cuesheet.Proofs.Instruction.Split
import Cuesheet.Proofs.Text.Lowercase

/-!
Reading, seen from its patterns.

Patterns are shown texts that are `Ready`: trimmed, in lower case and not empty. A clause is read
where one pattern claims the text and those before it pass (`firstClaim_eq_some_iff`), so what every
claim preserves holds of all that is read (`read_induction`).
-/

namespace Cuesheet.Instruction

/-- A text as the patterns are shown it. -/
structure Ready (t : Text) : Prop where
  ne_nil : t ≠ []
  trimmed : Text.Trimmed t
  lower : Text.lower t = t

theorem ready_of_ne_nil {x : Text} (h : Text.lower (Text.trim x) ≠ []) :
    Ready (Text.lower (Text.trim x)) :=
  ⟨h, (Text.trimmed_trim x).lower, Text.lower_lower _⟩

/-- Patterns see a ready text as it is. -/
theorem Ready.eq {t : Text} (h : Ready t) : Text.lower (Text.trim t) = t := by
  rw [Text.trim_of_trimmed h.trimmed, h.lower]

/-- Patterns see a piece of a ready text without its outer blanks, and not changed otherwise. -/
theorem Ready.lower_trim {t s : Text} (h : Ready t) (hs : s <:+: t) :
    Text.lower (Text.trim s) = Text.trim s :=
  Text.lower_of_isInfix h.lower ((Text.trim_isInfix s).trans hs)

theorem read_succ (below : Nat) (x : Text) :
    read (below + 1) x =
      if Text.lower (Text.trim x) = [] then none
      else firstClaim (read below) (Text.lower (Text.trim x)) Pattern.order := rfl

theorem Ready.read {t : Text} (h : Ready t) (below : Nat) :
    Instruction.read (below + 1) t = firstClaim (Instruction.read below) t Pattern.order := by
  rw [read_succ, h.eq, if_neg h.ne_nil]

variable {reader : Text → Option Clause} {t : Text} {c : Clause}

/-- A clause comes from the first pattern that does not pass. -/
theorem firstClaim_eq_some_iff {patterns : List Pattern} :
    firstClaim reader t patterns = some c ↔
      ∃ before p after, patterns = before ++ p :: after ∧
        (∀ q ∈ before, q.claim reader t = .pass) ∧ p.claim reader t = .clause c := by
  induction patterns with
  | nil => simp [firstClaim]
  | cons p patterns ih =>
    rw [firstClaim]
    constructor
    · intro h
      split at h
      next hpass =>
        obtain ⟨before, q, after, rfl, hbefore, hq⟩ := ih.mp h
        exact ⟨p :: before, q, after, rfl, List.forall_mem_cons.mpr ⟨hpass, hbefore⟩, hq⟩
      next hclause => exact ⟨[], p, patterns, rfl, by simp, by rw [hclause, Option.some.inj h]⟩
      next => exact absurd h (by simp)
    · rintro ⟨before, q, after, he, hbefore, hq⟩
      cases before with
      | nil =>
        obtain ⟨rfl, rfl⟩ := List.cons.inj he
        rw [hq]
      | cons b before =>
        obtain ⟨rfl, rfl⟩ := List.cons.inj he
        obtain ⟨hb, hbefore⟩ := List.forall_mem_cons.mp hbefore
        rw [hb]
        exact ih.mpr ⟨before, q, after, rfl, hbefore, hq⟩

/-- What is read at all is claimed by a pattern, and no cut at "and" is left to the others. -/
theorem exists_claim_of_read {ceiling : Nat} {x : Text} (h : read ceiling x = some c) :
    ∃ (below : Nat) (p : Pattern), ceiling = below + 1 ∧ Ready (Text.lower (Text.trim x)) ∧
      p.claim (read below) (Text.lower (Text.trim x)) = .clause c ∧
      (p ≠ .conjunction → splitAt? "and" (Text.lower (Text.trim x)) = none) := by
  cases ceiling with
  | zero => exact absurd h (by simp [read])
  | succ below =>
    rw [read_succ] at h
    split at h
    · exact absurd h (by simp)
    next hne =>
      obtain ⟨before, p, after, he, hbefore, hp⟩ := firstClaim_eq_some_iff.mp h
      refine ⟨below, p, rfl, ready_of_ne_nil hne, hp, fun hconj => ?_⟩
      have hmem : Pattern.conjunction ∈ before := by
        cases before with
        | nil => exact absurd (List.cons.inj he).1.symm hconj
        | cons q before => exact (List.cons.inj he).1 ▸ List.mem_cons_self ..
      have hpass := hbefore _ hmem
      simp only [Pattern.claim] at hpass
      split at hpass
      next hnone => exact hnone
      next => split at hpass <;> exact Claim.noConfusion hpass

/-- **What every claim preserves holds of all that is read.** -/
theorem read_induction {P : Text → Clause → Prop}
    (step : ∀ (reader : Text → Option Clause) (t : Text) (c : Clause) (p : Pattern), Ready t →
      (∀ s d, reader s = some d → P (Text.lower (Text.trim s)) d) →
      (p ≠ .conjunction → splitAt? "and" t = none) → p.claim reader t = .clause c → P t c)
    {ceiling : Nat} {x : Text} (h : read ceiling x = some c) : P (Text.lower (Text.trim x)) c := by
  induction ceiling generalizing x c with
  | zero => exact absurd h (by simp [read])
  | succ below ih =>
    obtain ⟨below, p, hb, hready, hp, hconj⟩ := exists_claim_of_read h
    obtain rfl := Nat.succ.inj hb
    exact step (read below) _ c p hready (fun s d hs => ih hs) hconj hp

/-! ### What a claim says -/

/-- The clause that a pattern makes of a text, from the pieces that it finds there. -/
inductive Says (reader : Text → Option Clause) (t : Text) : Pattern → Clause → Prop where
  | conjunction {parts : List Text} : splitAt? "and" t = some parts →
      parts.filterMap reader ≠ [] →
      Says reader t .conjunction (.conjunction (parts.filterMap reader))
  | disjunction {parts : List Text} : splitAt? "or" t = some parts →
      2 ≤ (parts.filterMap reader).length →
      Says reader t .disjunction (.disjunction (parts.filterMap reader))
  | check {comparison : Comparison} {subject : Subject} {value : Text} :
      comparison? comparison t = some (subject, value) →
      Says reader t (.check comparison) (.predicate (.compares subject comparison value))
  | nthChild {digits : Text} {n : Nat} : nthChild? t = some digits →
      Text.numeralBelow? childBound digits = some n →
      Says reader t .nthChild (.predicate (.nthChild n))
  | conditional {condition action : Text} {d : Clause} :
      conditional? t = some (condition, action) → reader condition = some d →
      Says reader t .conditional (.conditional d (reader (Text.trim action)) (Text.trim action))
  | wait {digits what : Text} {unit n : Nat} : wait? t = some (digits, unit, what) →
      Text.numeralBelow? timeBound digits = some n →
      Says reader t .wait (.wait (min (n * unit) (timeBound - 1)) (Text.trim what))
  | retryUntil {condition : Text} : retryUntil? t = some condition →
      Says reader t .retryUntil (.retryUntil (reader (Text.trim condition)) (Text.trim condition))
  | report {message : Text} : report? t = some (message, none) →
      Says reader t .report (.report message none)
  | guardedReport {message condition : Text} {d : Clause} :
      report? t = some (message, some condition) → reader condition = some d →
      Says reader t .report (.report message (some d))
  | onFailure {handler : Text} : onFailure? t = some handler →
      Says reader t .onFailure (.onFailure (Text.trim handler))

theorem says_of_claim {p : Pattern} (h : p.claim reader t = .clause c) : Says reader t p c := by
  cases p with
  | conjunction =>
    simp only [Pattern.claim] at h
    split at h
    · exact Claim.noConfusion h
    next parts hs =>
      split at h
      · exact Claim.noConfusion h
      next hne =>
        rw [← Claim.clause.inj h]
        exact .conjunction hs hne
  | disjunction =>
    simp only [Pattern.claim] at h
    split at h
    · exact Claim.noConfusion h
    next parts hs =>
      split at h
      · exact Claim.noConfusion h
      · exact Claim.noConfusion h
      next hnone hone =>
        rw [← Claim.clause.inj h]
        refine .disjunction hs ?_
        match hcs : parts.filterMap reader with
        | [] => exact absurd hcs hnone
        | [d] => exact absurd hcs (hone d)
        | _ :: _ :: _ => simp
  | check comparison =>
    simp only [Pattern.claim] at h
    split at h
    · exact Claim.noConfusion h
    · split at h
      · exact Claim.noConfusion h
      next subject value hs =>
        rw [← Claim.clause.inj h]
        exact .check hs
  | nthChild =>
    simp only [Pattern.claim] at h
    split at h
    · exact Claim.noConfusion h
    · split at h
      · exact Claim.noConfusion h
      next digits hs =>
        split at h
        · exact Claim.noConfusion h
        next n hn =>
          rw [← Claim.clause.inj h]
          exact .nthChild hs hn
  | conditional =>
    simp only [Pattern.claim] at h
    split at h
    · exact Claim.noConfusion h
    next condition action hs =>
      split at h
      · exact Claim.noConfusion h
      next d hd =>
        rw [← Claim.clause.inj h]
        exact .conditional hs hd
  | wait =>
    simp only [Pattern.claim] at h
    split at h
    · exact Claim.noConfusion h
    · split at h
      · exact Claim.noConfusion h
      next digits unit what hs =>
        split at h
        · exact Claim.noConfusion h
        next n hn =>
          rw [← Claim.clause.inj h]
          exact .wait hs hn
  | retryUntil =>
    simp only [Pattern.claim] at h
    split at h
    · exact Claim.noConfusion h
    next condition hs =>
      rw [← Claim.clause.inj h]
      exact .retryUntil hs
  | report =>
    simp only [Pattern.claim] at h
    split at h
    · exact Claim.noConfusion h
    next message condition hs =>
      cases condition with
      | none =>
        rw [← Claim.clause.inj h]
        exact .report hs
      | some operand =>
        simp only [optionalOperand] at h
        split at h
        · exact Claim.noConfusion h
        next d hd =>
          rw [← Claim.clause.inj h]
          exact .guardedReport hs hd
  | onFailure =>
    simp only [Pattern.claim] at h
    split at h
    · exact Claim.noConfusion h
    next handler hs =>
      rw [← Claim.clause.inj h]
      exact .onFailure hs

/-! ### Conjunctions -/

/-- A text that "and" cuts says what its parts say that are understood. -/
theorem Ready.read_of_splitAt? (h : Ready t) {parts : List Text}
    (hs : splitAt? "and" t = some parts) (below : Nat) :
    Instruction.read (below + 1) t =
      if parts.filterMap (Instruction.read below) = [] then none
      else some (.conjunction (parts.filterMap (Instruction.read below))) := by
  rw [h.read, Pattern.order, firstClaim]
  simp only [Pattern.claim, hs]
  cases parts.filterMap (Instruction.read below) with
  | nil => rfl
  | cons d ds => rfl

/-! ### Disjunctions -/

/-- A disjunction passes on fewer than two alternatives. -/
theorem claim_disjunction (reader : Text → Option Clause) (t : Text) :
    Pattern.disjunction.claim reader t = (splitAt? "or" t).elim .pass fun parts =>
      if 2 ≤ (parts.filterMap reader).length then .clause (.disjunction (parts.filterMap reader))
      else .pass := by
  simp only [Pattern.claim]
  cases splitAt? "or" t with
  | none => rfl
  | some parts =>
    cases hcs : parts.filterMap reader with
    | nil => simp [hcs]
    | cons d ds =>
      cases ds with
      | nil => simp [hcs]
      | cons d' ds => simp [hcs]

/-- A text that "or" cuts and "and" does not says its alternatives, if two of them are understood. -/
theorem Ready.read_of_alternatives (h : Ready t) (hand : splitAt? "and" t = none) {parts : List Text}
    (hs : splitAt? "or" t = some parts) {below : Nat}
    (htwo : 2 ≤ (parts.filterMap (Instruction.read below)).length) :
    Instruction.read (below + 1) t =
      some (.disjunction (parts.filterMap (Instruction.read below))) := by
  have hpass : Pattern.conjunction.claim (Instruction.read below) t = .pass := by
    simp only [Pattern.claim, hand]
  rw [h.read, Pattern.order, firstClaim, hpass, firstClaim, claim_disjunction, hs, Option.elim_some,
    if_pos htwo]

end Cuesheet.Instruction
