import Cuesheet.Rendering
import Cuesheet.Proofs.Instruction.NormalForm
import Cuesheet.Proofs.Text.Blank
import Cuesheet.Proofs.Text.Line

/-!
Conditions.

A condition is rebuilt from code: the code of its checks is cut into lines again, and each line loses
its semicolon. Where every check is a `Statement`, a call on one line, that gives back the checks one
by one: `conditionOf_stack` joins the same texts by "and". A call that breaks is not given back, as no
condition holds a line feed (`conditionOf_stack_iff`).
-/

namespace Cuesheet

/-- A call with the semicolon that ends it. -/
structure Call (t : Text) : Prop where
  head : ∃ c ∈ t.head?, Text.isBlank c = false
  closed : (");" : Text) <:+ t

/-- A call on a line of its own. -/
structure Statement (t : Text) : Prop extends Call t where
  unbroken : Text.Unbroken t

/-- A call without its semicolon. -/
theorem Call.exists_call {t : Text} (h : Call t) :
    ∃ call : Text, t = call ++ ");" ∧ t.dropLast = call ++ ")" := by
  obtain ⟨call, rfl⟩ := h.closed
  refine ⟨call, rfl, ?_⟩
  rw [List.dropLast_append_of_ne_nil (by decide)]
  rfl

theorem Call.eq_dropLast {t : Text} (h : Call t) : t = t.dropLast ++ ";" := by
  obtain ⟨call, rfl, hdrop⟩ := h.exists_call
  rw [hdrop, List.append_assoc]
  rfl

theorem Statement.trimmed {t : Text} (h : Statement t) : Text.Trimmed t := by
  constructor
  · obtain ⟨d, hd, hblank⟩ := h.head
    intro c hc
    exact Option.mem_unique hd hc ▸ hblank
  · obtain ⟨call, rfl, -⟩ := h.exists_call
    rw [List.getLast?_append]
    intro c hc
    obtain rfl : ';' = c := Option.some.inj hc
    decide

theorem Statement.lines {t : Text} (h : Statement t) : Text.lines t = [t] := by
  refine Text.lines_of_unbroken h.unbroken ?_
  obtain ⟨call, rfl, -⟩ := h.exists_call
  exact List.append_ne_nil_of_right_ne_nil _ (by decide)

theorem lines_stack {codes : List Text} (h : ∀ t ∈ codes, Statement t) :
    Text.lines (Text.stack codes) = codes := by
  induction codes with
  | nil => rfl
  | cons t codes ih =>
    obtain ⟨ht, hcodes⟩ := List.forall_mem_cons.mp h
    by_cases hnil : codes = []
    · subst hnil
      exact ht.lines
    · have hchomp : Text.chomp t = t := by
        rcases Text.chomp_cases t with hc | hc
        · exact hc.symm
        · obtain ⟨call, he, -⟩ := ht.exists_call
          have hlast : (call ++ (");" : Text)).getLast? = (Text.chomp t ++ ['\r']).getLast? := by
            rw [← he, ← hc]
          rw [List.getLast?_append, List.getLast?_append] at hlast
          exact absurd hlast (by simp)
      rw [Text.stack_cons hnil, Text.lines_append_break ht.unbroken, ih hcodes, hchomp]

/-- **A condition is its checks without their semicolons, joined by "and".** -/
theorem conditionOf_stack {codes : List Text} (h : ∀ t ∈ codes, Statement t) :
    conditionOf (Text.stack codes) = Text.join " && " (codes.map List.dropLast) := by
  have hcall : ∀ t ∈ codes,
      Text.trimEnd ((Text.trim t).reverse.dropWhile (· = ';')).reverse = t.dropLast := by
    intro t ht
    obtain ⟨call, he, hdrop⟩ := (h t ht).exists_call
    rw [Text.trim_of_trimmed (h t ht).trimmed, hdrop, he]
    have hrest : ((call ++ (");" : Text)).reverse.dropWhile (· = ';')).reverse = call ++ ")" := by
      simp
    rw [hrest]
    refine Text.trimEnd_of_last ?_
    rw [List.getLast?_append]
    intro c hc
    obtain rfl : ')' = c := Option.some.inj hc
    decide
  have hne : ∀ t ∈ codes.map List.dropLast, t ≠ [] := by
    intro t ht
    obtain ⟨u, hu, rfl⟩ := List.mem_map.mp ht
    obtain ⟨call, -, hdrop⟩ := (h u hu).exists_call
    rw [hdrop]
    exact List.append_ne_nil_of_right_ne_nil _ (by decide)
  rw [conditionOf, lines_stack h, List.map_congr_left hcall,
    List.filter_eq_self.mpr fun t ht => decide_eq_true (hne t ht)]

/-- Whatever the code was, a condition is one line. -/
theorem unbroken_conditionOf (code : Text) : Text.Unbroken (conditionOf code) := by
  refine Text.not_mem_join (by decide) fun t ht hc => ?_
  obtain ⟨line, hline, rfl⟩ := List.mem_map.mp (List.mem_of_mem_filter ht)
  obtain ⟨v, -, hv⟩ :=
    Text.exists_trimEnd ((Text.trim line).reverse.dropWhile (· = ';')).reverse
  have hmem := List.mem_append_left v hc
  rw [← hv, List.mem_reverse] at hmem
  have htrim : '\n' ∈ Text.trim line := List.mem_reverse.mp ((List.dropWhile_suffix _).mem hmem)
  exact Text.unbroken_of_mem_lines hline ((Text.trim_isInfix line).mem htrim)

/-- Exactly the calls that do not break are given back. -/
theorem conditionOf_stack_iff {codes : List Text} (h : ∀ t ∈ codes, Call t) :
    conditionOf (Text.stack codes) = Text.join " && " (codes.map List.dropLast) ↔
      ∀ t ∈ codes, Text.Unbroken t := by
  refine ⟨fun heq t ht => ?_, fun hunbroken =>
    conditionOf_stack fun t ht => ⟨h t ht, hunbroken t ht⟩⟩
  have hjoin := unbroken_conditionOf (Text.stack codes)
  rw [heq] at hjoin
  rw [(h t ht).eq_dropLast]
  have hpart := Text.isInfix_join " && " (List.mem_map_of_mem (f := List.dropLast) ht)
  exact .append (fun hc => hjoin (hpart.mem hc)) (by decide)

/-! ### Conditions of clauses -/

theorem Clause.renderAll_predicates (d : Dialect) (e : Element) (checks : List Predicate) :
    Clause.renderAll d e (checks.map .predicate) = checks.map (d.check e) := by
  induction checks with
  | nil => rfl
  | cons check checks ih =>
    rw [List.map_cons, List.map_cons, ← ih]
    rfl

/-- The code of a check lists single checks, in every dialect the same ones. -/
theorem Clause.Normal.render_check {source : Text} {c : Clause} (hc : c.Normal source)
    (h : c.isCheck = true) :
    ∃ checks : List Predicate, (∀ check ∈ checks, (Clause.predicate check).Normal source) ∧
      ∀ d e, c.render d e = some (Text.stack (checks.map (d.check e))) := by
  obtain ⟨check, rfl⟩ | ⟨check, checks, rfl⟩ := isCheck_cases h
  · exact ⟨[check], List.forall_mem_singleton.mpr hc, fun d e => rfl⟩
  · refine ⟨check :: checks, ?_, fun d e => ?_⟩
    · cases hc with
      | conjunction _ hparts _ => exact List.forall_mem_map.mp hparts
    · rw [render, renderAll_predicates]
      rfl

/-- What holds of the calls in the checks and carries over to texts joined by "and" holds of the
condition made of a check. -/
theorem Clause.Normal.condition {P : Text → Prop}
    (hjoin : ∀ ts : List Text, (∀ t ∈ ts, P t) → P (Text.join " && " ts)) {d : Dialect} {e : Element}
    {source : Text} (hchecks : ∀ {check : Predicate}, (Clause.predicate check).Normal source →
      Statement (d.check e check) ∧ P (d.check e check).dropLast)
    {c : Clause} (hc : c.Normal source) (hcheck : c.isCheck = true) {code : Text}
    (hcode : c.render d e = some code) : P (conditionOf code) ∧ Text.Unbroken (conditionOf code) := by
  obtain ⟨checks, hnormal, hrender⟩ := hc.render_check hcheck
  obtain rfl := Option.some.inj ((hrender d e).symm.trans hcode)
  have hstatements : ∀ t ∈ checks.map (d.check e), Statement t :=
    List.forall_mem_map.mpr fun check hmem => (hchecks (hnormal check hmem)).1
  refine ⟨?_, unbroken_conditionOf _⟩
  rw [conditionOf_stack hstatements, List.map_map]
  exact hjoin _ (List.forall_mem_map.mpr fun check hmem => (hchecks (hnormal check hmem)).2)

end Cuesheet
