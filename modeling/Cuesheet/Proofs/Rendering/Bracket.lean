import Cuesheet.Proofs.Rendering.Condition
import Cuesheet.Proofs.Rendering.Inversion
import Cuesheet.Proofs.Script.Bracket

/-!
Brackets of rendered clauses.

What a dialect owes is a structure of obligations, one for each construct (`Dialect.Bracketed`): its
checks are calls on one line that close what they open, and every other construct closes what it opens
if the texts and codes put into it do. From that every clause of an inert text has code that closes
what it opens (`block_render`), by induction over the clause. Two things hold in every dialect: the
lines of alternatives are comments, whatever they were, and a condition, rebuilt from the code of
checks, is one expression again.
-/

namespace Cuesheet

open Script

/-! ### What a dialect owes -/

/-- What a dialect owes about an element for its code to be well bracketed. -/
structure Dialect.Bracketed (d : Dialect) (e : Element) : Prop where
  /-- A check is a call that may stand in a condition. -/
  check : ∀ {source : Text} {check : Predicate}, Inert source →
    (Clause.predicate check).Normal source →
      Statement (d.check e check) ∧ Expression (d.check e check)
  conditional : ∀ {condition action : Text}, Expression condition → Block action →
    Block (d.conditional condition action)
  wait : ∀ (milliseconds : Nat) {what : Text}, Inert what → Block (d.wait e milliseconds what)
  retryUntil : ∀ {condition : Option Text} {wording : Text}, (∀ c ∈ condition, Text.Unbroken c) →
    Text.Unbroken wording → Block (d.retryUntil condition wording)
  report : ∀ {message : Text} {condition : Option Text}, Inert message →
    (∀ c ∈ condition, Expression c) → Block (d.report message condition)
  onFailure : ∀ {handler : Text}, Inert handler → Block (d.onFailure handler)

/-! ### What it gets for that -/

variable {d : Dialect} {e : Element} {source : Text}

/-- A condition may stand among brackets on one line. -/
theorem Dialect.Bracketed.condition (hd : d.Bracketed e) (hsource : Inert source) {c : Clause}
    (hc : c.Normal source) (hcheck : c.isCheck = true) {code : Text}
    (hcode : c.render d e = some code) :
    Expression (conditionOf code) ∧ Text.Unbroken (conditionOf code) := by
  have hand : Expression " && " := fun a => ⟨rfl, rfl⟩
  refine hc.condition (fun _ => hand.join) (fun {check} hnormal => ?_) hcheck hcode
  obtain ⟨hstatement, hexpression⟩ := hd.check hsource hnormal
  obtain ⟨call, he, hdrop⟩ := hstatement.exists_call
  exact ⟨hstatement, hdrop ▸ Expression.of_semicolon (he ▸ hexpression)⟩

/-- Alternatives are listed in comments line by line, whatever they are. -/
theorem block_alternativesComment (alternatives : List Text) :
    Block (alternativesComment alternatives) := by
  refine Block.stack (List.forall_mem_cons.mpr ⟨fun a => rfl, List.forall_mem_map.mpr ?_⟩)
  intro l hl
  obtain ⟨code, -, hl⟩ := List.mem_flatMap.mp hl
  have hline : Text.Unbroken ("   " ++ l) := .append (by decide) (Text.unbroken_of_mem_lines hl)
  exact block_comment hline

theorem Dialect.Bracketed.conditions (hd : d.Bracketed e) (hsource : Inert source)
    {condition : Option Clause} (hc : ∀ c ∈ condition, c.Normal source)
    (hcheck : ∀ c ∈ condition, c.isCheck = true) :
    ∀ t ∈ (condition.bind (Clause.render d e)).map conditionOf, Expression t ∧ Text.Unbroken t := by
  intro t ht
  obtain ⟨checks, hchecks, rfl⟩ := Option.map_eq_some_iff.mp ht
  obtain ⟨c, hmem, hrender⟩ := Option.bind_eq_some_iff.mp hchecks
  exact hd.condition hsource (hc c hmem) (hcheck c hmem) hrender

/-- **Every clause of an inert text has code that closes what it opens.** -/
theorem Clause.Normal.block_render (hd : d.Bracketed e) (hsource : Inert source) {c : Clause}
    (hc : c.Normal source) {code : Text} (hcode : c.render d e = some code) : Block code := by
  induction hc generalizing code with
  | compares hname hvalue =>
    obtain rfl := Option.some.inj hcode
    exact (hd.check hsource (.compares hname hvalue)).2.block
  | nthChild =>
    obtain rfl := Option.some.inj hcode
    exact (hd.check hsource .nthChild).2.block
  | conjunction _ _ _ ih =>
    obtain ⟨-, rfl⟩ := render_conjunction_eq_some hcode
    refine Block.stack fun t ht => ?_
    obtain ⟨part, hpart, hrender⟩ := List.mem_filterMap.mp ht
    exact ih part hpart hrender
  | disjunction _ _ _ _ =>
    rw [render_disjunction_eq_some hcode]
    exact block_alternativesComment _
  | conditional hcondition _ hwording _ ihaction =>
    obtain ⟨hcheck, checks, hchecks, rfl⟩ := render_conditional_eq_some hcode
    refine hd.conditional (hd.condition hsource hcondition hcheck hchecks).1 ?_
    cases haction : Option.bind _ (render d e) with
    | none => exact (hsource.of_isInfix hwording.2).expression.block
    | some t =>
      obtain ⟨action, hmem, hrender⟩ := Option.bind_eq_some_iff.mp haction
      exact ihaction action hmem hrender
  | wait hwhat =>
    obtain rfl := Option.some.inj hcode
    exact hd.wait _ (hsource.of_isInfix hwhat.2)
  | retryUntil hcondition hwording _ =>
    obtain ⟨hcheck, rfl⟩ := render_retryUntil_eq_some hcode
    exact hd.retryUntil (fun t ht => (hd.conditions hsource hcondition hcheck t ht).2)
      (hsource.of_isInfix hwording.2).slashless.unbroken
  | report hmessage hcondition _ =>
    obtain ⟨hcheck, rfl⟩ := render_report_eq_some hcode
    exact hd.report (hsource.of_isInfix hmessage.2)
      fun t ht => (hd.conditions hsource hcondition hcheck t ht).1
  | onFailure hhandler =>
    obtain rfl := Option.some.inj hcode
    exact hd.onFailure (hsource.of_isInfix hhandler.2)

end Cuesheet
