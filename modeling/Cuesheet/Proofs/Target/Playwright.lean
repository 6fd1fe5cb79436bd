import Cuesheet.Target.Playwright
import Cuesheet.Proofs.Rendering.Bracket
import Cuesheet.Proofs.Target.Blocks

/-!
Playwright code: checks as statements, and brackets.

A check is a call, and its lines end only where they do in its value. An element is an expression
among the calls around it, so it has to close what it opens. A value that is matched at the end of a
text comes right after the slash that opens the pattern, and so it must not be empty: two slashes
would begin a comment.
-/

namespace Cuesheet.Target

open Script

namespace Playwright

variable {e : Element} {subject : Subject} {value : Text}

/-! ### Checks as statements -/

theorem not_mem_read {c : Char} (hc : c ∈ lineEnds) (hlocator : c ∉ e.locator)
    (hname : ∀ name, subject = .attribute name → c ∉ name) : c ∉ read e subject := by
  match subject, hname with
  | .text, _ | .value, _ =>
    exact (Inline.mem_between_iff hc (by decide) (by decide)).not.mpr hlocator
  | .attribute name, hname =>
    have hget : c ∉ ("(await " : Text) ++ e.locator ++ ".getAttribute(\"" :=
      (Inline.mem_between_iff hc (by decide) (by decide)).not.mpr hlocator
    exact (mem_between_iff hget (Inline.not_mem (by decide) hc)).not.mpr (hname name rfl)

theorem call_compares (e : Element) (subject : Subject) (comparison : Comparison) (value : Text) :
    Call (compares e subject comparison value) where
  head := ⟨'e', rfl, by decide⟩
  closed := by
    refine List.suffix_append_of_suffix ?_
    cases comparison with
    | notContains | startsWith | endsWith => exact List.suffix_append_of_suffix (by decide)

/-- Where lines end in a comparison, they end in the value. -/
theorem mem_compares_iff {c : Char} (hc : c ∈ lineEnds) (hlocator : c ∉ e.locator)
    (hname : ∀ name, subject = .attribute name → c ∉ name) (comparison : Comparison) :
    c ∈ compares e subject comparison value ↔ c ∈ value := by
  have hread : c ∉ ("expect(" : Text) ++ read e subject :=
    List.not_mem_append (Inline.not_mem (by decide) hc) (not_mem_read hc hlocator hname)
  have hslash : c ≠ '\\' := fun he => absurd hc (he ▸ by decide)
  unfold compares
  rw [List.mem_append, or_iff_right hread]
  cases comparison with
  | notContains =>
    exact Inline.mem_between_iff hc (by decide) (by decide)
  | startsWith | endsWith =>
    exact (Inline.mem_between_iff hc (by decide) (by decide)).trans (mem_literalPattern_iff hslash)

theorem statement_compares (hlocator : Text.Unbroken e.locator)
    (hname : ∀ name, subject = .attribute name → Text.Unbroken name) (hvalue : Text.Unbroken value)
    (comparison : Comparison) : Statement (compares e subject comparison value) where
  toCall := call_compares e subject comparison value
  unbroken := (mem_compares_iff (by decide) hlocator hname comparison).not.mpr hvalue

variable {d : Dialect}

theorem call_nthChild (hd : playwright.dialect = some d) (e : Element) (n : Nat) :
    Call (d.nthChild e n) := by
  obtain rfl := Option.some.inj hd
  exact ⟨⟨'a', rfl, by decide⟩, List.suffix_append_of_suffix (by decide)⟩

theorem not_mem_nthChild (hd : playwright.dialect = some d) {c : Char} (hc : c ∈ lineEnds)
    (hselector : c ∉ e.selector) (n : Nat) : c ∉ d.nthChild e n := by
  obtain rfl := Option.some.inj hd
  have hfind : c ∉ ("await expect(page.locator('" : Text) ++ e.selector ++ ":nth-child(" :=
    (Inline.mem_between_iff hc (by decide) (by decide)).not.mpr hselector
  exact (mem_between_iff hfind (Inline.not_mem (by decide) hc)).not.mpr ((inline_ofNat n).not_mem hc)

theorem statement_nthChild (hd : playwright.dialect = some d) (hselector : Text.Unbroken e.selector)
    (n : Nat) : Statement (d.nthChild e n) :=
  ⟨call_nthChild hd e n, not_mem_nthChild hd (by decide) hselector n⟩

/-! ### Brackets -/

theorem expression_read (hlocator : Expression e.locator)
    (hname : ∀ name, subject = .attribute name → Inert name) : Expression (read e subject) := by
  intro a
  have hawait : Takes .code a "await " .code a := ⟨rfl, rfl⟩
  match subject, hname with
  | .text, _ =>
    have hcall : Takes .code a ".textContent()" .code a := ⟨rfl, rfl⟩
    exact (hawait.append (hlocator a)).append hcall
  | .value, _ =>
    have hcall : Takes .code a ".inputValue()" .code a := ⟨rfl, rfl⟩
    exact (hawait.append (hlocator a)).append hcall
  | .attribute name, hname =>
    have hopen : Takes .code a "(await " .code (')' :: a) := ⟨rfl, rfl⟩
    have hcall : Takes .code (')' :: a) ".getAttribute(\"" .code (')' :: ')' :: a) := ⟨rfl, rfl⟩
    have hclose : Takes .code (')' :: ')' :: a) "\"))" .code a := ⟨rfl, rfl⟩
    have hquoted := (hname name rfl).expression (')' :: ')' :: a)
    exact (((hopen.append (hlocator _)).append hcall).append hquoted).append hclose

theorem expression_compares (hlocator : Expression e.locator)
    (hname : ∀ name, subject = .attribute name → Inert name) (hvalue : Inert value)
    (hne : value ≠ []) (comparison : Comparison) :
    Expression (compares e subject comparison value) := by
  intro a
  have hexpect : Takes .code a "expect(" .code (')' :: a) := ⟨rfl, rfl⟩
  have hread := hexpect.append (expression_read hlocator hname _)
  cases comparison with
  | notContains =>
    have hopen : Takes .code (')' :: a) ").not.toContain(\"" .code (')' :: a) := ⟨rfl, rfl⟩
    have hclose : Takes .code (')' :: a) "\");" .code a := ⟨rfl, rfl⟩
    exact hread.append ((hopen.append (hvalue.expression _)).append hclose)
  | startsWith =>
    have hopen : Takes .code (')' :: a) ").toMatch(/^" .code (')' :: a) := ⟨rfl, rfl⟩
    have hclose : Takes .code (')' :: a) "/);" .code a := ⟨rfl, rfl⟩
    exact hread.append ((hopen.append (hvalue.literalPattern.expression _)).append hclose)
  | endsWith =>
    -- The pattern comes right after a slash, so it must not begin with another.
    have hopen : Takes .code (')' :: a) ").toMatch(/" .slash (')' :: a) := ⟨rfl, rfl⟩
    have hpattern := hvalue.literalPattern.takes_slash (literalPattern_ne_nil hne) (')' :: a)
    have hclose : Takes .code (')' :: a) "$/);" .code a := ⟨rfl, rfl⟩
    exact hread.append ((hopen.append hpattern).append hclose)

theorem expression_nthChild (hd : playwright.dialect = some d) (hselector : Expression e.selector)
    (n : Nat) : Expression (d.nthChild e n) := by
  obtain rfl := Option.some.inj hd
  intro a
  have hopen : Takes .code a "await expect(page.locator('" .code (')' :: ')' :: a) := ⟨rfl, rfl⟩
  have hchild : Takes .code (')' :: ')' :: a) ":nth-child(" .code (')' :: ')' :: ')' :: a) :=
    ⟨rfl, rfl⟩
  have hclose : Takes .code (')' :: ')' :: ')' :: a) ")')).toBeVisible();" .code a := ⟨rfl, rfl⟩
  exact (((hopen.append (hselector _)).append hchild).append ((inert_ofNat n).expression _)).append
    hclose

theorem block_wait (hd : playwright.dialect = some d) (hlocator : Expression e.locator)
    (milliseconds : Nat) {what : Text} (hwhat : Inert what) : Block (d.wait e milliseconds what) := by
  obtain rfl := Option.some.inj hd
  intro a
  have hawait : Takes .code a "await " .code a := ⟨rfl, rfl⟩
  have hopen : Takes .code a ".waitFor(\x7b timeout: " .code ('\x7d' :: ')' :: a) := ⟨rfl, rfl⟩
  have hclose : Takes .code ('\x7d' :: ')' :: a) " \x7d); // waiting for " .comment a := ⟨rfl, rfl⟩
  have htime := (inert_ofNat milliseconds).expression ('\x7d' :: ')' :: a)
  exact (((((hawait.append (hlocator a)).append hopen).append htime).append hclose).append
    (.comment hwhat.slashless.unbroken a)).awaited

end Playwright

open Playwright in
/-- Playwright code about a tidy element is well bracketed. -/
theorem bracketed_playwright {d : Dialect} (hd : playwright.dialect = some d) {e : Element}
    (hselector : Tidy e.selector) (hlocator : Tidy e.locator) : d.Bracketed e where
  check hsource hcheck := by
    cases hcheck with
    | compares hname hvalue =>
      have hname' := fun name h => hsource.of_isInfix (hname name h).2
      have hvalue' := hsource.of_isInfix hvalue.2
      obtain rfl := Option.some.inj hd
      exact ⟨statement_compares hlocator.slashless.unbroken
        (fun name h => (hname' name h).slashless.unbroken) hvalue'.slashless.unbroken _,
        expression_compares hlocator.expression hname' hvalue' hvalue.1 _⟩
    | nthChild =>
      exact ⟨statement_nthChild hd hselector.slashless.unbroken _,
        expression_nthChild hd hselector.expression _⟩
  conditional hcondition haction := by
    obtain rfl := Option.some.inj hd
    exact block_ifBlock hcondition haction
  wait milliseconds _ hwhat := block_wait hd hlocator.expression milliseconds hwhat
  retryUntil hcondition hwording := by
    obtain rfl := Option.some.inj hd
    exact block_retryComment hcondition hwording
  report hmessage hcondition := by
    obtain rfl := Option.some.inj hd
    exact block_logLine (fun a => ⟨rfl, rfl⟩) hmessage hcondition
  onFailure hhandler := by
    obtain rfl := Option.some.inj hd
    exact block_tryBlock hhandler

end Cuesheet.Target
