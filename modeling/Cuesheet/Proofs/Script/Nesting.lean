import Cuesheet.Script
import Cuesheet.Proofs.Locator
import Cuesheet.Proofs.Target.Playwright
import Cuesheet.Proofs.Target.Selenium
import Cuesheet.Proofs.Template
import Cuesheet.Proofs.Text.Lowercase

/-!
Generated scripts are well bracketed.

Between the lines that open a script and those that close it stand the blocks of its actions, and each
of them closes what it opens: a filled template because templates and fillings are tidy, the code of
an instruction because all it keeps of the instruction is inert, and the echo of an instruction
because it is a comment on one line. Cypress is left out: there the end of a conditional may stand
behind a comment.
-/

namespace Cuesheet

open Script

/-! ### Instructions -/

theorem isMark_of_mem {c : Char} (h : c ∈ brackets ++ lineMarks) : Text.IsMark c := by
  have hall : ∀ c ∈ brackets ++ lineMarks, c.toNat < 0x80 ∧ c.isAlpha = false := by decide
  exact ⟨(hall c h).1, (hall c h).2⟩

/-- Lower-casing an inert text leaves it inert. -/
theorem Script.Inert.lower {t : Text} (h : Inert t) : Inert (Text.lower t) := by
  intro c hc
  have hback : c ∈ brackets ++ lineMarks → c ∈ t := fun hmem => (isMark_of_mem hmem).mem_of_mem_lower hc
  constructor
  · rw [Bool.eq_false_iff]
    intro hbracket
    have hnot := (h c (hback (List.mem_append_left _ (mem_of_isBracket hbracket)))).1
    rw [hbracket] at hnot
    exact Bool.noConfusion hnot
  · intro hmark
    exact (h c (hback (List.mem_append_right _ hmark))).2 hmark

/-- What is asked for of an inert instruction is inert. -/
theorem Action.inert_instruction {a : Action} (h : ∀ i ∈ a.instruction, Inert i)
    {request : RequestedAssertion} (hrequest : a.assertion? = some request) :
    ∀ i ∈ request.instruction, Inert i := by
  intro i hi
  rw [Action.assertion?] at hrequest
  split at hrequest
  next =>
    obtain rfl := Option.some.inj hrequest
    obtain ⟨typed, htyped, rfl⟩ := Option.map_eq_some_iff.mp hi
    obtain ⟨whole, hwhole, hblank⟩ := Option.bind_eq_some_iff.mp htyped
    rw [Text.nonBlank?] at hblank
    split at hblank
    next => exact absurd hblank (by simp)
    next =>
      obtain rfl := Option.some.inj hblank
      exact (h _ hwhole).of_isInfix (Text.trim_isInfix _)
  next => exact absurd hrequest (by simp)

/-- What a framework other than Cypress makes of an inert instruction closes what it opens. -/
theorem Instruction.block_compile {ceiling : Nat} {f : Framework} {e : Element} {i code : Text}
    (hf : f ≠ .cypress) (hselector : Tidy e.selector) (hlocator : Tidy e.locator) (hi : Inert i)
    (h : compile ceiling f e i = some code) : Block code := by
  obtain ⟨c, hread, hrender⟩ := Option.bind_eq_some_iff.mp h
  obtain ⟨d, hd, hcode⟩ := Option.bind_eq_some_iff.mp hrender
  have hinert : Inert (Text.lower (Text.trim i)) := (hi.of_isInfix (Text.trim_isInfix i)).lower
  have hbracketed : d.Bracketed e := by
    cases f with
    | plain => cases hd
    | playwright => exact Target.bracketed_playwright hd hselector hlocator
    | cypress => exact absurd rfl hf
    | selenium => exact Target.bracketed_selenium hd hselector
  exact (read_normal hread).block_render hbracketed hinert hcode

/-! ### Steps -/

/-- What has to hold of a recorded action for its step to be well bracketed. -/
structure Action.Tidy (locators : Locators) (a : Action) : Prop where
  selector : Script.Tidy a.selector
  value : ∀ v ∈ a.value?, Script.Tidy v
  locator : ∀ l ∈ locators.get? a.selector, Script.Tidy l
  instruction : ∀ i ∈ a.instruction, Inert i

instance (locators : Locators) (a : Action) : Decidable (a.Tidy locators) :=
  decidable_of_iff (Script.Tidy a.selector ∧ (∀ v ∈ a.value?, Script.Tidy v) ∧
      (∀ l ∈ locators.get? a.selector, Script.Tidy l) ∧ ∀ i ∈ a.instruction, Inert i)
    ⟨fun h => ⟨h.1, h.2.1, h.2.2.1, h.2.2.2⟩, fun h => ⟨h.selector, h.value, h.locator, h.instruction⟩⟩

/-- The templates of a framework are tidy, but for the comment in place of an assertion. -/
theorem Framework.tidy_templates (f : Framework) :
    Script.Tidy f.target.templates.forClick ∧ Script.Tidy f.target.templates.forInput ∧
      ∀ kind, Script.Tidy (f.target.templates.forAssertion kind) ∨
        f.target.templates.forAssertion kind = Target.plainAssertion := by
  cases f <;> exact ⟨by decide +kernel, by decide +kernel, fun kind => by cases kind <;> decide +kernel⟩

theorem unmarked_plainAssertion (p : Placeholder) : ¬ p.mark <:+: Target.plainAssertion := by
  cases p <;> decide

section

variable {s : Settings} {a : Action}

/-- A filled template of a framework closes what it opens. -/
theorem Action.Tidy.block_render (h : a.Tidy s.locators) {template : Text}
    (htemplate : Script.Tidy template ∨ template = Target.plainAssertion) :
    Block (Template.render template (Locator.resolve s.framework s.locators a.selector) a.selector
      a.value?) := by
  rcases htemplate with htidy | rfl
  · exact (htidy.render (h.selector.resolve h.locator) h.selector h.value).expression.block
  · rw [Template.render_of_unmarked unmarked_plainAssertion]
    exact fun _ => rfl

/-- An instruction is echoed in a comment of one line. -/
theorem block_echo (i : Text) : Block (echoLead ++ oneLine i) := by
  have hline : Text.Unbroken (oneLine i) :=
    Text.not_mem_join (by decide) fun l hl => Text.unbroken_of_mem_lines hl
  intro a
  have hlead : Takes .code a echoLead .comment a := ⟨rfl, rfl⟩
  exact (hlead.append (.comment hline a)).awaited

/-- The step of an action closes what it opens. -/
theorem Action.Tidy.block_step (hf : s.framework ≠ .cypress)
    (htemplates : s.templates = s.framework.target.templates) (h : a.Tidy s.locators) :
    Block (step s a) := by
  obtain ⟨hclick, hinput, hassertion⟩ := s.framework.tidy_templates
  rw [← htemplates] at hclick hinput hassertion
  cases hrequest : a.assertion? with
  | none =>
    simp only [step, hrequest]
    cases a.interaction with
    | click => exact h.block_render (.inl hclick)
    | input v => exact h.block_render (.inl hinput)
  | some request =>
    have hline := h.block_render (hassertion request.kind)
    cases hi : request.instruction with
    | none =>
      simp only [step, hrequest, hi]
      exact hline
    | some i =>
      simp only [step, hrequest, hi]
      cases hcode : Instruction.compile _ _ _ i with
      | none =>
        rw [Option.getD_none, List.append_assoc]
        exact Block.stack (List.forall_mem_cons.mpr
          ⟨hline, List.forall_mem_singleton.mpr (block_echo i)⟩)
      | some code =>
        have hinert := Action.inert_instruction h.instruction hrequest i hi
        exact Instruction.block_compile hf h.selector (h.selector.resolve h.locator) hinert hcode

/-! ### Scripts -/

/-- What the lines before the steps open, the lines after them close. -/
theorem Framework.frame_closed (f : Framework) :
    ∃ awaited, f.target.header.foldlM (awaitedFrom .code) [] = some awaited ∧
      f.target.footer.foldlM (awaitedFrom .code) awaited = some [] := by
  cases f with
  | plain | cypress => exact ⟨[], by decide +kernel, by decide +kernel⟩
  | playwright | selenium => exact ⟨['\x7d', ')'], by decide +kernel, by decide +kernel⟩

theorem Script.nested_configured (hf : s.framework ≠ .cypress)
    (htemplates : s.templates = s.framework.target.templates) {actions : List Action}
    (hactions : ∀ a ∈ actions, a.Tidy s.locators) :
    Nested (withoutComments (configured s actions)) := by
  rw [nested_withoutComments_iff]
  match actions, hactions with
  | [], _ => exact (by decide +kernel : awaitedFrom .code [] noActions = some [])
  | a :: rest, hactions =>
    obtain ⟨awaited, hheader, hfooter⟩ := s.framework.frame_closed
    have hsteps : ∀ t ∈ (a :: rest).map (fun a => Text.indent (step s a)), Block t :=
      List.forall_mem_map.mpr fun a ha => ((hactions a ha).block_step hf htemplates).indent
    show awaitedFrom .code [] (Text.stack (s.framework.target.header ++
      (a :: rest).map (fun a => Text.indent (step s a)) ++ s.framework.target.footer)) = some []
    rw [awaitedFrom_stack, List.foldlM_append, List.foldlM_append, hheader]
    simp only [Option.bind_eq_bind, Option.bind_some, foldlM_blocks hsteps, hfooter]

end

/-- **Scripts for every framework but Cypress are well bracketed**: where the user gives only the
framework and expressions for elements, and what was recorded is tidy, the script without its comments
is nested. -/
theorem Script.nested_generate {user : UserSettings} {actions : List Action}
    (htemplates : user.templates = {}) (hf : Framework.ofSetting user.framework ≠ .cypress)
    (hactions : ∀ a ∈ actions, a.Tidy user.locators) :
    Nested (withoutComments (generate (some user) actions)) := by
  refine nested_configured (s := user.resolve) hf ?_ hactions
  rw [UserSettings.resolve, htemplates]
  rfl

/-- A conditional wait, an input with brackets in its value and an instruction that is only echoed. -/
theorem Script.nested_generate_conditional_wait :
    let user : UserSettings :=
      { framework := some "Playwright", locators := .ofList [("#a", "page.locator('#a')")] }
    let actions : List Action :=
      [(Action.click "#a").instructed "if text starts with 'a' then wait 5 seconds for x",
        Action.input "li[x]" "f(y)", (Action.click "#b").instructed "hum along"]
    user.templates = {} ∧ Framework.ofSetting user.framework ≠ .cypress ∧
      (∀ a ∈ actions, a.Tidy user.locators) ∧
      Nested (withoutComments (generate (some user) actions)) := by
  intro user actions
  have hframework : Framework.ofSetting user.framework ≠ .cypress := by decide +kernel
  have hactions : ∀ a ∈ actions, a.Tidy user.locators := by decide +kernel
  exact ⟨rfl, hframework, hactions, nested_generate rfl hframework hactions⟩

end Cuesheet
