import Cuesheet.Proofs.Rendering.Conjunction
import Cuesheet.Proofs.Text.Line

/-!
Compiling alternatives.

`compile_or`: instructions joined by "or" compile, one level further up, to a comment that lists the
codes of those that compile, line by line, below a header. Two alternatives have to be understood for
the text to be a disjunction, and two of these have to have code for the disjunction to have any: where
the first are two but the second are not, nothing is compiled.
-/

namespace Cuesheet

/-- A disjunction lists the codes of those alternatives that have one, if there are two. -/
theorem Clause.renderFor_disjunction (f : Framework) (e : Element) (parts : List Clause) :
    Clause.renderFor f e (.disjunction parts) =
      if 2 ≤ (parts.filterMap (Clause.renderFor f e)).length then
        some (alternativesComment (parts.filterMap (Clause.renderFor f e)))
      else none := by
  rcases Clause.renderFor_cases f e with hnone | ⟨d, hsome⟩
  · simp [hnone]
  · rw [hsome, Clause.render, Clause.renderAll_eq_filterMap]
    rcases parts.filterMap (Clause.render d e) with _ | ⟨code, _ | ⟨code', codes⟩⟩
    · rfl
    · rfl
    · simp

/-! ### The comment -/

/-- The header, and then every line of every code behind slashes. -/
def alternativeLines (codes : List Text) : List Text :=
  alternativesHeader :: (codes.flatMap Text.lines).map ("//   " ++ ·)

theorem alternativeLine {codes : List Text} {l : Text} (hl : l ∈ alternativeLines codes) :
    Text.Unbroken l ∧ ("//" : Text) <+: l := by
  rcases List.mem_cons.mp hl with rfl | hl
  · exact ⟨by decide, by decide⟩
  · obtain ⟨line, hline, rfl⟩ := List.mem_map.mp hl
    obtain ⟨code, -, hcode⟩ := List.mem_flatMap.mp hline
    exact ⟨Text.Unbroken.append (by decide) (Text.unbroken_of_mem_lines hcode),
      (show ("//" : Text) <+: "//   " by decide).trans (List.prefix_append _ _)⟩

namespace Instruction

variable {parts : List Text}

theorem two_le_of_compile {ceiling : Nat} {f : Framework} {e : Element}
    (h : 2 ≤ (parts.filterMap (compile ceiling f e)).length) :
    2 ≤ (parts.filterMap (read ceiling)).length := by
  rw [filterMap_compile] at h
  exact h.trans (List.length_filterMap_le ..)

/-- Joined by "or", alternatives of which two are understood say a disjunction. -/
theorem read_alternatives (hn : 2 ≤ parts.length) (h : ∀ p ∈ parts, Joinable "or" p)
    (hand : openSeparators "and" (Text.join " or " parts) = []) {ceiling : Nat}
    (htwo : 2 ≤ (parts.filterMap (read ceiling)).length) :
    read (ceiling + 1) (Text.join " or " parts) =
      some (.disjunction (parts.filterMap (read ceiling))) := by
  have hne : parts ≠ [] := by
    rintro rfl
    exact absurd hn (by decide)
  have hwhole : splitAt? "and" (Text.join " or " parts) = none := by rw [splitAt?, hand]
  exact (ready_joined hne h).read_of_alternatives hwhole (splitAt?_joined joint_or hn h) htwo

/-- **Instructions joined by "or" compile to a comment that lists the codes of those that compile**:
the header and then each line of each code, in order, none of them lost or run together with another,
and every line a comment. If two are understood but fewer compile, there is no code. -/
theorem compile_or (f : Framework) (e : Element) (ceiling : Nat) (hn : 2 ≤ parts.length)
    (h : ∀ p ∈ parts, Joinable "or" p)
    (hand : openSeparators "and" (Text.join " or " parts) = []) :
    (2 ≤ (parts.filterMap (compile ceiling f e)).length →
      ∃ comment, compile (ceiling + 1) f e (Text.join " or " parts) = some comment ∧
        comment = Text.stack (alternativeLines (parts.filterMap (compile ceiling f e))) ∧
        comment.splitOn '\n' = alternativeLines (parts.filterMap (compile ceiling f e)) ∧
        ∀ line ∈ Text.lines comment, ("//" : Text) <+: line) ∧
    (2 ≤ (parts.filterMap (read ceiling)).length →
      (parts.filterMap (compile ceiling f e)).length < 2 →
      compile (ceiling + 1) f e (Text.join " or " parts) = none) := by
  have hcompile : 2 ≤ (parts.filterMap (read ceiling)).length →
      compile (ceiling + 1) f e (Text.join " or " parts) =
        if 2 ≤ (parts.filterMap (compile ceiling f e)).length then
          some (alternativesComment (parts.filterMap (compile ceiling f e)))
        else none := by
    intro htwo
    rw [compile, read_alternatives hn h hand htwo, Option.bind_some, Clause.renderFor_disjunction,
      ← filterMap_compile]
  refine ⟨fun htwo => ⟨_, ?_, rfl, ?_, ?_⟩, fun htwo hfew => ?_⟩
  · rw [hcompile (two_le_of_compile htwo), if_pos htwo]
    rfl
  · exact Text.splitOn_stack (List.cons_ne_nil _ _) fun l hl => (alternativeLine hl).1
  · intro line hline
    exact Text.isPrefix_of_mem_lines_stack (by decide) (fun l hl => alternativeLine hl) hline
  · rw [hcompile htwo, if_neg (by omega)]

/-- A code of three lines and one of one line are listed, past a phrase that is not understood; and a
conditional whose condition is no check is an alternative that counts but has no code. -/
theorem compile_or_conditional :
    let e : Element := ⟨"#a", "a"⟩
    let parts : List Text :=
      ["if text starts with 'a or b', then report 'x'", "hum along", "value ends with 'c'"]
    let few : List Text := ["if wait 5 seconds for x then go", "value ends with 'c'"]
    (∀ p ∈ parts, Joinable "or" p) ∧ openSeparators "and" (Text.join " or " parts) = [] ∧
      2 ≤ (parts.filterMap (compile 2 .playwright e)).length ∧
      compile 3 .playwright e (Text.join " or " parts) = some (Text.stack
        ["// At least one of the following should pass:",
          "//   if (expect(await a.textContent()).toMatch(/^a or b/)) \x7b",
          "//     console.log('x');", "//   \x7d",
          "//   expect(await a.inputValue()).toMatch(/c$/);"]) ∧
      (∀ p ∈ few, Joinable "or" p) ∧ openSeparators "and" (Text.join " or " few) = [] ∧
      2 ≤ (few.filterMap (read 2)).length ∧
      compile 3 .playwright e (Text.join " or " few) = none := by
  intro e parts few
  have hparts : ∀ p ∈ parts, Joinable "or" p := by decide +kernel
  have hand : openSeparators "and" (Text.join " or " parts) = [] := by decide +kernel
  have htwo : 2 ≤ (parts.filterMap (compile 2 .playwright e)).length := by decide +kernel
  have hfewParts : ∀ p ∈ few, Joinable "or" p := by decide +kernel
  have hfewAnd : openSeparators "and" (Text.join " or " few) = [] := by decide +kernel
  have hfewRead : 2 ≤ (few.filterMap (read 2)).length := by decide +kernel
  have hfew : (few.filterMap (compile 2 .playwright e)).length < 2 := by decide +kernel
  obtain ⟨comment, hcompile, hcomment, -⟩ :=
    (compile_or .playwright e 2 (by decide) hparts hand).1 htwo
  refine ⟨hparts, hand, htwo, ?_, hfewParts, hfewAnd, hfewRead,
    (compile_or .playwright e 2 (by decide) hfewParts hfewAnd).2 hfewRead hfew⟩
  rw [hcompile, hcomment]
  decide +kernel

end Instruction

end Cuesheet
