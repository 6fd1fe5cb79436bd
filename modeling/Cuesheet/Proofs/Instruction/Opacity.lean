import Cuesheet.Proofs.Clause
import Cuesheet.Proofs.Instruction.Cut
import Cuesheet.Proofs.Instruction.Reading

/-!
What a literal holds does not matter.

Two instructions that differ in the contents of one literal say clauses of the same shape
(`read_contents`). The readings go side by side: a pattern makes of twins claims that are alike, if
its operands are read alike (`claim_twins`), since each phrase has its words outside the literal and
cuts twins into twins.

Cutting at "and" and "or" heeds literals; the other phrases are looked for in the text as it is. So
behind each front of a clause that can hold the literal, its contents are asked to be silent. A pattern
is tried only where those before it pass (`firstClaim_alike`): that is why a clause that an "and" parts
from the literal does not count, nor an ordinal where a check claims the text.
-/

namespace Cuesheet.Instruction

open Clause (Alike)

variable {q : Char} {x y a b s t : Text}

/-! ### Claims -/

/-- The claims are the same up to the texts that their clauses keep. -/
inductive Claim.Alike : Claim → Claim → Prop where
  | pass : Alike .pass .pass
  | clause {c d : Clause} : c.Alike d → Alike (.clause c) (.clause d)
  | reject : Alike .reject .reject

/-- The patterns that are tried before a pattern. -/
def Pattern.earlier (p : Pattern) : List Pattern := order.takeWhile (· ≠ p)

/-- The claims that decide are alike if each pattern makes alike claims where those tried before it
pass. -/
theorem firstClaim_alike {reader : Text → Option Clause} {patterns : List Pattern}
    (h : ∀ p ∈ patterns, (∀ p' ∈ patterns.takeWhile (· ≠ p), p'.claim reader s = .pass) →
      Claim.Alike (p.claim reader s) (p.claim reader t)) :
    Option.Rel Alike (firstClaim reader s patterns) (firstClaim reader t patterns) := by
  induction patterns with
  | nil => exact .none
  | cons p patterns ih =>
    have hp := h p (List.mem_cons_self ..) (by simp)
    have hrest : p.claim reader s = .pass → ∀ p' ∈ patterns,
        (∀ p'' ∈ patterns.takeWhile (· ≠ p'), p''.claim reader s = .pass) →
        Claim.Alike (p'.claim reader s) (p'.claim reader t) := by
      intro hpass p' hp' hbefore
      refine h p' (List.mem_cons_of_mem p hp') fun p'' hp'' => ?_
      rw [List.takeWhile_cons] at hp''
      split at hp''
      · rcases List.mem_cons.mp hp'' with rfl | hp''
        · exact hpass
        · exact hbefore p'' hp''
      · cases hp''
    rw [firstClaim, firstClaim]
    generalize p.claim reader s = claim, p.claim reader t = claim' at hp hrest
    cases hp with
    | pass => exact ih (hrest rfl)
    | clause hc => exact .some hc
    | reject => exact .none

/-! ### Phrases in twins -/

theorem Twins.trim (hq : isQuote q = true) (h : Twins q x y s t) :
    Twins q x y (Text.trim s) (Text.trim t) := by
  cases h with
  | same t => exact .same _
  | around h h' =>
    rw [trim_around hq, trim_around hq]
    exact .around h.trim h'.trim

/-- An ordinal stands before a literal, in it or after it. -/
theorem nthChild?_around (hq : isQuote q = true) (a x b : Text) :
    nthChild? (a ++ (quoted q x ++ b)) =
      (nthChild? (a ++ [q])).or ((nthChild? (quoted q x)).or (nthChild? b)) := by
  have hquoted : nthChild? (quoted q x) = (nthChild? [q]).or (nthChild? (x ++ [q])) :=
    nthChild?_quote hq [] (x ++ [q])
  have hfront : nthChild? [q] = none := by
    rcases isQuote_cases hq with rfl | rfl <;> decide +kernel
  rw [hquoted, hfront, Option.none_or, quoted_append, nthChild?_quote hq a, nthChild?_quote hq x]

/-- A wait stands before a literal, in it or after it. -/
theorem wait?_around (hq : isQuote q = true) (a x b : Text) :
    (wait? (a ++ (quoted q x ++ b))).map Timed =
      ((wait? (a ++ [q])).map Timed).or
        (((wait? (quoted q x)).map Timed).or ((wait? b).map Timed)) := by
  have hquoted : (wait? (quoted q x)).map Timed =
      ((wait? [q]).map Timed).or ((wait? (x ++ [q])).map Timed) := wait?_quote hq [] (x ++ [q])
  have hfront : wait? [q] = none := by
    rcases isQuote_cases hq with rfl | rfl <;> decide +kernel
  rw [hquoted, hfront, Option.map_none, Option.none_or, quoted_append, wait?_quote hq a,
    wait?_quote hq x]

section Around

variable (hq : isQuote q = true)
include hq

theorem hasCompoundLead_around (a x b : Text) :
    hasCompoundLead (a ++ (quoted q x ++ b)) = hasCompoundLead a := by
  rw [quoted_append, hasCompoundLead_quote hq]

/-- What owns the checks in a text stands before the literal or after it. -/
theorem isCompound_around (hx : Silent a q x) (b : Text) :
    isCompound (a ++ (quoted q x ++ b)) = (isCompound (a ++ [q]) || (wait? b).isSome) := by
  have htimed : ∀ t, (wait? t).isSome = ((wait? t).map Timed).isSome := fun t => by
    rw [Option.isSome_map]
  have hbefore : isCompound (a ++ [q]) = (hasCompoundLead a || (wait? (a ++ [q])).isSome) := by
    rw [isCompound, hasCompoundLead_quote hq]
  have hwhole : isCompound (a ++ (quoted q x ++ b)) =
      (isCompound (a ++ [q]) || ((wait? (quoted q x)).isSome || (wait? b).isSome)) := by
    rw [isCompound, hasCompoundLead_around hq, hbefore, htimed (a ++ _), wait?_around hq]
    simp [Option.isSome_or, Bool.or_assoc]
  rw [hwhole]
  cases hbare : isCompound (a ++ [q]) with
  | true => rfl
  | false =>
    rw [hx.no_wait hbare]
    rfl

theorem wait?_twins (hx : Silent a q x) (hy : Silent a q y) (hlead : hasCompoundLead a = false)
    (b : Text) : Option.Rel (fun r r' => Timed r = Timed r')
      (wait? (a ++ (quoted q x ++ b))) (wait? (a ++ (quoted q y ++ b))) := by
  refine rel_of_map ?_
  rw [wait?_around hq, wait?_around hq]
  cases hbefore : wait? (a ++ [q]) with
  | some found => exact .some rfl
  | none =>
    have hbare : isCompound (a ++ [q]) = false := by
      rw [isCompound, hasCompoundLead_quote hq, hlead, hbefore]
      rfl
    rw [hx.no_wait hbare, hy.no_wait hbare]
    exact rel_refl (fun _ => rfl) _

/-- Where no check is of the text, an ordinal stands before the literal or after it. -/
theorem nthChild?_twins (hx : Silent a q x) (hy : Silent a q y)
    (hbare : isCompound (a ++ (quoted q x ++ b)) = false)
    (hchecks : ∀ comparison, comparison? comparison (a ++ (quoted q x ++ b)) = none) :
    nthChild? (a ++ (quoted q x ++ b)) = nthChild? (a ++ (quoted q y ++ b)) := by
  have hbare' : isCompound (a ++ [q]) = false := by
    rw [isCompound_around hq hx, Bool.or_eq_false_iff] at hbare
    exact hbare.1
  have hchecks' : ∀ comparison, comparison? comparison (a ++ [q]) = none := by
    intro comparison
    have hsame := comparison?_quote hq comparison a [] (x ++ q :: b)
    rw [← quoted_append, hchecks, Option.map_none, Option.map_eq_none_iff] at hsame
    exact hsame
  rw [nthChild?_around hq, nthChild?_around hq]
  cases hbefore : nthChild? (a ++ [q]) with
  | some digits => rfl
  | none => rw [hx.no_ordinal hbare' hchecks' hbefore, hy.no_ordinal hbare' hchecks' hbefore]

/-- A lead before a literal: what follows it is twins again. -/
theorem restAfter?_twins (lead : Text) (hlead : lead.any isQuote = false) (hstarts : Starts lead)
    (h : Around q x a b) (h' : Around q y a b) :
    Option.Rel (Twins q x y) (restAfter? lead (a ++ (quoted q x ++ b)))
      (restAfter? lead (a ++ (quoted q y ++ b))) := by
  simp only [quoted_append, restAfter?_quote hq hlead]
  cases hafter : Text.after? lead a with
  | none => exact .none
  | some a' =>
    obtain rfl := Text.eq_append_of_after? hafter
    simp only [Option.map_some, ← quoted_append]
    exact .some (.around (h.suffix hstarts) (h'.suffix hstarts))

/-- Whether a handler is given is seen before the literal. -/
theorem onFailure?_twins (a x y b : Text) : Option.Rel (fun _ _ => True)
    (onFailure? (a ++ (quoted q x ++ b))) (onFailure? (a ++ (quoted q y ++ b))) := by
  have hrest : ∀ lead : Text, lead.any isQuote = false → ∀ x, restAfter? lead (a ++ (quoted q x ++ b)) =
      (Text.after? lead a).map (· ++ (quoted q x ++ b)) := fun lead hlead x => by
    simp only [quoted_append, restAfter?_quote hq hlead]
  rw [onFailure?, onFailure?, hrest _ (by decide), hrest _ (by decide), hrest _ (by decide),
    hrest _ (by decide)]
  cases Text.after? "on failure, " a with
  | some rest => exact .some trivial
  | none =>
    cases Text.after? "on failure " a with
    | some rest => exact .some trivial
    | none => exact .none

/-- What a check is of stands before every literal. -/
theorem comparison?_twins (comparison : Comparison) (a x y b : Text) :
    Option.Rel (fun r r' => r.1 = r'.1) (comparison? comparison (a ++ (quoted q x ++ b)))
      (comparison? comparison (a ++ (quoted q y ++ b))) := by
  refine rel_of_map (g := Prod.fst) ?_
  rw [quoted_append, quoted_append, comparison?_quote hq comparison a _ (y ++ q :: b)]
  exact rel_refl (fun _ => rfl) _

end Around

/-! ### Claims on twins

For each pattern: if its phrase cuts two texts alike, the pattern makes alike claims on them. -/

/-- Twins are read alike. -/
def ReadsAlike (q : Char) (x y : Text) (reader : Text → Option Clause) : Prop :=
  ∀ s t, Twins q x y s t → Option.Rel Alike (reader s) (reader t)

variable {reader : Text → Option Clause}

theorem ReadsAlike.filterMap (hr : ReadsAlike q x y reader) {parts parts' : List Text}
    (h : List.Forall₂ (Twins q x y) parts parts') :
    List.Forall₂ Alike (parts.filterMap reader) (parts'.filterMap reader) :=
  List.rel_filterMap (fun s t hst => hr s t hst) h

theorem conjunction_alike (hr : ReadsAlike q x y reader)
    (h : Option.Rel (List.Forall₂ (Twins q x y)) (splitAt? "and" s) (splitAt? "and" t)) :
    Claim.Alike (Pattern.conjunction.claim reader s) (Pattern.conjunction.claim reader t) := by
  simp only [Pattern.claim]
  generalize splitAt? "and" s = parts, splitAt? "and" t = parts' at h
  cases h with
  | none => exact .pass
  | @some parts parts' hparts =>
    have hclauses := hr.filterMap hparts
    dsimp only
    generalize parts.filterMap reader = clauses, parts'.filterMap reader = clauses' at hclauses
    cases hclauses with
    | nil => exact .reject
    | cons hc hcs => exact .clause (Clause.alike_conjunction (.cons hc hcs))

theorem disjunction_alike (hr : ReadsAlike q x y reader)
    (h : Option.Rel (List.Forall₂ (Twins q x y)) (splitAt? "or" s) (splitAt? "or" t)) :
    Claim.Alike (Pattern.disjunction.claim reader s) (Pattern.disjunction.claim reader t) := by
  rw [claim_disjunction, claim_disjunction]
  generalize splitAt? "or" s = parts, splitAt? "or" t = parts' at h
  cases h with
  | none => exact .pass
  | some hparts =>
    have hclauses := hr.filterMap hparts
    rw [Option.elim_some, Option.elim_some, hclauses.length_eq]
    split
    · exact .clause (Clause.alike_disjunction hclauses)
    · exact .pass

theorem check_alike {comparison : Comparison} (hcompound : isCompound s = isCompound t)
    (h : Option.Rel (fun r r' => r.1 = r'.1) (comparison? comparison s) (comparison? comparison t)) :
    Claim.Alike ((Pattern.check comparison).claim reader s)
      ((Pattern.check comparison).claim reader t) := by
  simp only [Pattern.claim, hcompound]
  generalize comparison? comparison s = found, comparison? comparison t = found' at h
  split
  · exact .pass
  · cases h with
    | none => exact .pass
    | some hsubject => exact .clause (Clause.alike_compares hsubject comparison _ _)

theorem nthChild_alike (hcompound : isCompound s = isCompound t)
    (h : isCompound s = false → nthChild? s = nthChild? t) :
    Claim.Alike (Pattern.nthChild.claim reader s) (Pattern.nthChild.claim reader t) := by
  cases hbare : isCompound s with
  | true =>
    simp only [Pattern.claim, ← hcompound, hbare]
    exact .pass
  | false =>
    simp only [Pattern.claim, ← hcompound, hbare, h hbare]
    split
    · exact .pass
    · split
      · exact .pass
      · split
        · exact .reject
        · exact .clause rfl

theorem conditional_alike (hq : isQuote q = true) (hr : ReadsAlike q x y reader)
    (h : Option.Rel (fun r r' => Twins q x y r.1 r'.1 ∧ Twins q x y r.2 r'.2)
      (conditional? s) (conditional? t)) :
    Claim.Alike (Pattern.conditional.claim reader s) (Pattern.conditional.claim reader t) := by
  simp only [Pattern.claim]
  generalize conditional? s = cut, conditional? t = cut' at h
  cases h with
  | none => exact .pass
  | @some cut cut' htwins =>
    have hcondition := hr _ _ htwins.1
    have haction := hr _ _ (htwins.2.trim hq)
    dsimp only
    generalize reader cut.1 = c, reader cut'.1 = d at hcondition
    cases hcondition with
    | none => exact .reject
    | some hc => exact .clause (Clause.alike_conditional hc haction _ _)

theorem wait_alike (hlead : hasCompoundLead s = hasCompoundLead t)
    (h : hasCompoundLead s = false → Option.Rel (fun r r' => Timed r = Timed r') (wait? s) (wait? t)) :
    Claim.Alike (Pattern.wait.claim reader s) (Pattern.wait.claim reader t) := by
  simp only [Pattern.claim, ← hlead]
  split
  · exact .pass
  next hbare =>
    replace h := h (Bool.eq_false_iff.mpr hbare)
    generalize wait? s = found, wait? t = found' at h
    cases h with
    | none => exact .pass
    | some htimed =>
      obtain ⟨hdigits, hunit⟩ := Prod.mk.inj htimed
      dsimp only
      rw [hdigits, hunit]
      split
      · exact .reject
      · exact .clause rfl

theorem retryUntil_alike (hq : isQuote q = true) (hr : ReadsAlike q x y reader)
    (h : Option.Rel (Twins q x y) (retryUntil? s) (retryUntil? t)) :
    Claim.Alike (Pattern.retryUntil.claim reader s) (Pattern.retryUntil.claim reader t) := by
  simp only [Pattern.claim]
  generalize retryUntil? s = condition, retryUntil? t = condition' at h
  cases h with
  | none => exact .pass
  | some htwins => exact .clause (Clause.alike_retryUntil (hr _ _ (htwins.trim hq)) _ _)

theorem report_alike (hr : ReadsAlike q x y reader)
    (h : Option.Rel (fun r r' => Option.Rel (Twins q x y) r.2 r'.2) (report? s) (report? t)) :
    Claim.Alike (Pattern.report.claim reader s) (Pattern.report.claim reader t) := by
  simp only [Pattern.claim]
  generalize report? s = found, report? t = found' at h
  cases h with
  | none => exact .pass
  | @some found found' hoperand =>
    obtain ⟨message, operand⟩ := found
    obtain ⟨message', operand'⟩ := found'
    cases hoperand with
    | none => exact .clause (Clause.alike_report .none message message')
    | @some operand operand' htwins =>
      have hread := hr operand operand' htwins
      simp only [optionalOperand]
      generalize reader operand = c, reader operand' = d at hread
      cases hread with
      | none => exact .reject
      | some hc => exact .clause (Clause.alike_report (.some hc) message message')

theorem onFailure_alike (h : Option.Rel (fun _ _ => True) (onFailure? s) (onFailure? t)) :
    Claim.Alike (Pattern.onFailure.claim reader s) (Pattern.onFailure.claim reader t) := by
  simp only [Pattern.claim]
  generalize onFailure? s = handler, onFailure? t = handler' at h
  cases h with
  | none => exact .pass
  | some => exact .clause rfl

theorem splitAt?_of_pass (h : Pattern.conjunction.claim reader t = .pass) : splitAt? "and" t = none := by
  rw [Pattern.claim] at h
  split at h
  · assumption
  · split at h <;> cases h

theorem comparison?_of_pass {comparison : Comparison} (h : (Pattern.check comparison).claim reader t = .pass)
    (hbare : isCompound t = false) : comparison? comparison t = none := by
  rw [Pattern.claim, hbare] at h
  simp only [Bool.false_eq_true, if_false] at h
  split at h
  · assumption
  · cases h

/-- What stands before a literal is the front of its clause, if no `and` cuts the text. -/
theorem Around.front (hq : isQuote q = true) (hx : Plain x) (h : Around q x a b)
    (hnone : splitAt? "and" (a ++ (quoted q x ++ b)) = none) : Front a a := by
  have hopen : openSeparators "and" (a ++ (quoted q x ++ b)) = [] :=
    (openSeparators_eq_nil_iff joint_and).mpr ((splitAt?_eq_none_iff joint_and).mp hnone)
  rw [openSeparators_around joint_and hq hx h.opens h.closes] at hopen
  exact front_self (List.append_eq_nil_iff.mp hopen).1

/-- **A pattern makes alike claims on twins**, where those that are tried before it pass. -/
theorem claim_twins (hq : isQuote q = true) (hx : Plain x) (hy : Plain y)
    (hr : ReadsAlike q x y reader) (h : Around q x a b) (h' : Around q y a b) (p : Pattern)
    (hearlier : ∀ p' ∈ p.earlier, p'.claim reader (a ++ (quoted q x ++ b)) = .pass) :
    Claim.Alike (p.claim reader (a ++ (quoted q x ++ b)))
      (p.claim reader (a ++ (quoted q y ++ b))) := by
  by_cases hfirst : p = .conjunction
  · subst hfirst
    exact conjunction_alike hr (splitAt?_twins joint_and (by decide) hq hx hy h h')
  -- No `and` cuts the text, so the literal is heard in the clause that is the whole text.
  have hconjunction : .conjunction ∈ p.earlier := by
    rw [Pattern.earlier, Pattern.order, List.takeWhile_cons_of_pos (by simpa using Ne.symm hfirst)]
    exact List.mem_cons_self ..
  have hfront := h.front hq hx (splitAt?_of_pass (hearlier _ hconjunction))
  have hsilent := h.silent a hfront
  have hsilent' := h'.silent a hfront
  have hcompound : isCompound (a ++ (quoted q x ++ b)) = isCompound (a ++ (quoted q y ++ b)) := by
    rw [isCompound_around hq hsilent, isCompound_around hq hsilent']
  have hlead : hasCompoundLead (a ++ (quoted q x ++ b)) = hasCompoundLead (a ++ (quoted q y ++ b)) := by
    rw [hasCompoundLead_around hq, hasCompoundLead_around hq]
  cases p with
  | conjunction => exact absurd rfl hfirst
  | disjunction => exact disjunction_alike hr (splitAt?_twins joint_or (by decide) hq hx hy h h')
  | check comparison => exact check_alike hcompound (comparison?_twins hq comparison a x y b)
  | nthChild =>
    refine nthChild_alike hcompound fun hbare => ?_
    have hchecks : ∀ comparison, .check comparison ∈ Pattern.nthChild.earlier := by
      intro comparison
      cases comparison <;> decide
    exact nthChild?_twins hq hsilent hsilent' hbare fun comparison =>
      comparison?_of_pass (hearlier _ (hchecks comparison)) hbare
  | conditional => exact conditional_alike hq hr (conditional?_twins hq hx hy h h' hfront)
  | wait =>
    refine wait_alike hlead fun hbare => wait?_twins hq hsilent hsilent' ?_ b
    rwa [hasCompoundLead_around hq] at hbare
  | retryUntil => exact retryUntil_alike hq hr (restAfter?_twins hq _ (by decide) (by decide) h h')
  | report => exact report_alike hr (report?_twins hq hx hy h h' hfront)
  | onFailure => exact onFailure_alike (onFailure?_twins hq a x y b)

/-! ### Reading twins -/

/-- Twins are read alike, at every ceiling. -/
theorem readsAlike (hq : isQuote q = true) (hx : Plain x) (hy : Plain y) (ceiling : Nat) :
    ReadsAlike q x y (read ceiling) := by
  induction ceiling with
  | zero => exact fun s t _ => .none
  | succ below ih =>
    intro s t h
    cases h with
    | same => exact rel_refl Clause.alike_refl _
    | around h h' =>
      have hne : ∀ a x b : Text, a ++ (quoted q x ++ b) ≠ [] := by simp [quoted]
      rw [read_succ, read_succ, trim_around hq, trim_around hq, h.trim.lower, h'.trim.lower,
        if_neg (hne _ _ _), if_neg (hne _ _ _)]
      exact firstClaim_alike fun p _ => claim_twins hq hx hy ih h.trim h'.trim p

/-- **Other contents of a literal leave the shape of what an instruction says**, and whether it says
anything, at every ceiling, if behind each front of a clause that can hold the literal neither contents
say anything that would be taken for a phrase there. -/
theorem read_contents {instruction : Text}
    (htext : Text.lower (Text.trim instruction) = a ++ (quoted q x ++ b))
    (hliteral : ⟨a.length, a.length + (quoted q x).length⟩ ∈ literals (a ++ (quoted q x ++ b)))
    (hx : Plain x) (hy : Plain y) (hlower : Text.lower y = y)
    (hsilent : ∀ c, Front a c → Silent c q x ∧ Silent c q y)
    (ceiling : Nat) : (read ceiling instruction).map Clause.shape =
      (read ceiling (a ++ (quoted q y ++ b))).map Clause.shape := by
  obtain ⟨hq, hopens, hcloses⟩ := opens_of_mem_literals hliteral
  have hsame : read ceiling instruction = read ceiling (a ++ (quoted q x ++ b)) := by
    have hne : Text.lower (Text.trim instruction) ≠ [] := by
      rw [htext]
      simp [quoted]
    cases ceiling with
    | zero => rfl
    | succ below => rw [← htext, (ready_of_ne_nil hne).read, read_succ, if_neg hne]
  have hlower' : Text.lower (a ++ (quoted q x ++ b)) = a ++ (quoted q x ++ b) := by
    rw [← htext, Text.lower_lower]
  have hsettled := Text.lower_eq_self_iff.mp hlower'
  have hsettled' : ∀ c ∈ a ++ (quoted q y ++ b), Text.Settled c := by
    intro c hc
    by_cases hcy : c ∈ y
    · exact Text.lower_eq_self_iff.mp hlower c hcy
    · refine hsettled c ?_
      simp only [quoted, List.mem_append, List.mem_cons] at hc ⊢
      tauto
  have htwins := Twins.around ⟨hopens, hcloses, fun c hc => (hsilent c hc).1, hlower'⟩
    ⟨hopens, hcloses, fun c hc => (hsilent c hc).2, Text.lower_eq_self_iff.mpr hsettled'⟩
  rw [hsame]
  exact Clause.map_shape_eq (readsAlike hq hx hy ceiling _ _ htwins)

theorem read_contents_conditional :
    (read defaultCeiling "if text starts with 'up or down', then value ends with '!'").map
      Clause.shape = some (.conditional (.predicate (.compares .text .startsWith []))
        (some (.predicate (.compares .value .endsWith []))) []) := by
  have hread : (read defaultCeiling
      "If text starts with 'Cats and dogs', then value ends with '!'").map Clause.shape =
        some (.conditional (.predicate (.compares .text .startsWith []))
          (some (.predicate (.compares .value .endsWith []))) []) := by
    decide +kernel
  have hanimals : Plain "cats and dogs" := ⟨by decide, Text.forall_of_any_eq_false (by decide)⟩
  have hways : Plain "up or down" := ⟨by decide, Text.forall_of_any_eq_false (by decide)⟩
  have htext : Text.lower (Text.trim "If text starts with 'Cats and dogs', then value ends with '!'") =
      "if text starts with " ++ (quoted '\'' "cats and dogs" ++ ", then value ends with '!'") := by
    decide +kernel
  have hsame := read_contents htext (by decide +kernel) hanimals hways (by decide +kernel)
    (by decide +kernel) defaultCeiling
  exact hsame.symm.trans hread

/-- A wait is found within a literal. -/
theorem not_read_contents_of_plain : ¬ ∀ (instruction a b x y : Text) (q : Char) (ceiling : Nat),
    Text.lower (Text.trim instruction) = a ++ (quoted q x ++ b) →
    ⟨a.length, a.length + (quoted q x).length⟩ ∈ literals (a ++ (quoted q x ++ b)) →
    Plain x → Plain y → Text.lower y = y →
    (read ceiling instruction).map Clause.shape =
      (read ceiling (a ++ (quoted q y ++ b))).map Clause.shape := by
  intro h
  have hwait := h "text starts with 'a'" "text starts with " "" "a" "wait 5 seconds for x" '\'' 1
    (by decide +kernel) (by decide +kernel) ⟨by decide, Text.forall_of_any_eq_false (by decide)⟩
    ⟨by decide, Text.forall_of_any_eq_false (by decide)⟩ (by decide +kernel)
  exact absurd hwait (by decide +kernel)

-- Nor could the literal hold an ordinal, a `then` or the end of a message.
example : (read 1 "text 'is the 3rd child'").map Clause.shape ≠
    (read 1 "text 'a'").map Clause.shape := by decide +kernel

example : (read 2 "if text starts with 'a then b'").map Clause.shape ≠
    (read 2 "if text starts with 'a'").map Clause.shape := by decide +kernel

example : (read 2 "report 'a' ' if text starts with b'").map Clause.shape ≠
    (read 2 "report 'a' 'b'").map Clause.shape := by decide +kernel

end Cuesheet.Instruction
