import Cuesheet.Target.Selenium
import Cuesheet.Proofs.Rendering.Bracket
import Cuesheet.Proofs.Target.Blocks

/-!
Selenium code: checks as statements, and brackets.

An element is found anew in every check, so its selector stands in all code about it. A check is a
call, and its lines end only where they do in its value.
-/

namespace Cuesheet.Target

open Script

namespace Selenium

variable {e : Element} {subject : Subject} {value : Text}

/-! ### Checks as statements -/

theorem not_mem_read {c : Char} (hc : c ∈ lineEnds) (hselector : c ∉ e.selector)
    (hname : ∀ name, subject = .attribute name → c ∉ name) : c ∉ read e subject := by
  have hfind : c ∉ ("driver.findElement(By.cssSelector('" : Text) ++ e.selector :=
    List.not_mem_append (Inline.not_mem (by decide) hc) hselector
  match subject, hname with
  | .text, _ | .value, _ => exact List.not_mem_append hfind (Inline.not_mem (by decide) hc)
  | .attribute name, hname =>
    exact List.not_mem_append hfind
      ((Inline.mem_between_iff hc (by decide) (by decide)).not.mpr (hname name rfl))

theorem call_compares (e : Element) (subject : Subject) (comparison : Comparison) (value : Text) :
    Call (compares e subject comparison value) := by
  cases comparison with
  | notContains | startsWith | endsWith =>
    exact ⟨⟨'a', rfl, by decide⟩, List.suffix_append_of_suffix (by decide)⟩

/-- Where lines end in a comparison, they end in the value. -/
theorem mem_compares_iff {c : Char} (hc : c ∈ lineEnds) (hselector : c ∉ e.selector)
    (hname : ∀ name, subject = .attribute name → c ∉ name) (comparison : Comparison) :
    c ∈ compares e subject comparison value ↔ c ∈ value := by
  have hread := not_mem_read hc hselector hname
  cases comparison with
  | notContains | startsWith | endsWith =>
    refine mem_between_iff ((mem_between_iff ?_ ?_).not.mpr hread) ?_ <;>
      exact Inline.not_mem (by decide) hc

theorem statement_compares (hselector : Text.Unbroken e.selector)
    (hname : ∀ name, subject = .attribute name → Text.Unbroken name) (hvalue : Text.Unbroken value)
    (comparison : Comparison) : Statement (compares e subject comparison value) where
  toCall := call_compares e subject comparison value
  unbroken := (mem_compares_iff (by decide) hselector hname comparison).not.mpr hvalue

variable {d : Dialect}

theorem call_nthChild (hd : selenium.dialect = some d) (e : Element) (n : Nat) :
    Call (d.nthChild e n) := by
  obtain rfl := Option.some.inj hd
  exact ⟨⟨'a', rfl, by decide⟩, List.suffix_append_of_suffix (by decide)⟩

theorem not_mem_nthChild (hd : selenium.dialect = some d) {c : Char} (hc : c ∈ lineEnds)
    (hselector : c ∉ e.selector) (n : Nat) : c ∉ d.nthChild e n := by
  obtain rfl := Option.some.inj hd
  have hfind : c ∉ ("assert(driver.findElements(By.cssSelector('" : Text) ++ e.selector ++
      ":nth-child(" :=
    (Inline.mem_between_iff hc (by decide) (by decide)).not.mpr hselector
  exact (mem_between_iff hfind (Inline.not_mem (by decide) hc)).not.mpr ((inline_ofNat n).not_mem hc)

theorem statement_nthChild (hd : selenium.dialect = some d) (hselector : Text.Unbroken e.selector)
    (n : Nat) : Statement (d.nthChild e n) :=
  ⟨call_nthChild hd e n, not_mem_nthChild hd (by decide) hselector n⟩

/-! ### Brackets -/

theorem expression_read (hselector : Expression e.selector)
    (hname : ∀ name, subject = .attribute name → Inert name) : Expression (read e subject) := by
  intro a
  have hopen : Takes .code a "driver.findElement(By.cssSelector('" .code (')' :: ')' :: a) :=
    ⟨rfl, rfl⟩
  have hfind := hopen.append (hselector (')' :: ')' :: a))
  match subject, hname with
  | .text, _ =>
    have hcall : Takes .code (')' :: ')' :: a) "')).getText()" .code a := ⟨rfl, rfl⟩
    exact hfind.append hcall
  | .value, _ =>
    have hcall : Takes .code (')' :: ')' :: a) "')).getAttribute('value')" .code a := ⟨rfl, rfl⟩
    exact hfind.append hcall
  | .attribute name, hname =>
    have hcall : Takes .code (')' :: ')' :: a) "')).getAttribute('" .code (')' :: a) := ⟨rfl, rfl⟩
    have hclose : Takes .code (')' :: a) "')" .code a := ⟨rfl, rfl⟩
    exact hfind.append ((hcall.append ((hname name rfl).expression _)).append hclose)

theorem expression_compares (hselector : Expression e.selector)
    (hname : ∀ name, subject = .attribute name → Inert name) (hvalue : Inert value)
    (comparison : Comparison) : Expression (compares e subject comparison value) := by
  intro a
  have hread := expression_read hselector hname (')' :: a)
  have hquoted := hvalue.expression (')' :: ')' :: a)
  have hclose : Takes .code (')' :: ')' :: a) "\"));" .code a := ⟨rfl, rfl⟩
  cases comparison with
  | notContains =>
    have hopen : Takes .code a "assert(!" .code (')' :: a) := ⟨rfl, rfl⟩
    have hcall : Takes .code (')' :: a) ".includes(\"" .code (')' :: ')' :: a) := ⟨rfl, rfl⟩
    exact (((hopen.append hread).append hcall).append hquoted).append hclose
  | startsWith =>
    have hopen : Takes .code a "assert(" .code (')' :: a) := ⟨rfl, rfl⟩
    have hcall : Takes .code (')' :: a) ".startsWith(\"" .code (')' :: ')' :: a) := ⟨rfl, rfl⟩
    exact (((hopen.append hread).append hcall).append hquoted).append hclose
  | endsWith =>
    have hopen : Takes .code a "assert(" .code (')' :: a) := ⟨rfl, rfl⟩
    have hcall : Takes .code (')' :: a) ".endsWith(\"" .code (')' :: ')' :: a) := ⟨rfl, rfl⟩
    exact (((hopen.append hread).append hcall).append hquoted).append hclose

theorem expression_nthChild (hd : selenium.dialect = some d) (hselector : Expression e.selector)
    (n : Nat) : Expression (d.nthChild e n) := by
  obtain rfl := Option.some.inj hd
  intro a
  have hopen : Takes .code a "assert(driver.findElements(By.cssSelector('" .code
      (')' :: ')' :: ')' :: a) := ⟨rfl, rfl⟩
  have hchild : Takes .code (')' :: ')' :: ')' :: a) ":nth-child(" .code
      (')' :: ')' :: ')' :: ')' :: a) := ⟨rfl, rfl⟩
  have hclose : Takes .code (')' :: ')' :: ')' :: ')' :: a) ")')).length > 0);" .code a := ⟨rfl, rfl⟩
  exact (((hopen.append (hselector _)).append hchild).append ((inert_ofNat n).expression _)).append
    hclose

theorem block_wait (hd : selenium.dialect = some d) (hselector : Expression e.selector)
    (milliseconds : Nat) {what : Text} (hwhat : Inert what) : Block (d.wait e milliseconds what) := by
  obtain rfl := Option.some.inj hd
  intro a
  have hopen : Takes .code a "await driver.wait(until.elementLocated(By.cssSelector('" .code
      (')' :: ')' :: ')' :: a) := ⟨rfl, rfl⟩
  have hfound : Takes .code (')' :: ')' :: ')' :: a) "')), " .code (')' :: a) := ⟨rfl, rfl⟩
  have hclose : Takes .code (')' :: a) "); // waiting for " .comment a := ⟨rfl, rfl⟩
  have htime := (inert_ofNat milliseconds).expression (')' :: a)
  exact (((((hopen.append (hselector _)).append hfound).append htime).append hclose).append
    (.comment hwhat.slashless.unbroken a)).awaited

end Selenium

open Selenium in
/-- Selenium code about an element with a tidy selector is well bracketed. -/
theorem bracketed_selenium {d : Dialect} (hd : selenium.dialect = some d) {e : Element}
    (hselector : Tidy e.selector) : d.Bracketed e where
  check hsource hcheck := by
    cases hcheck with
    | compares hname hvalue =>
      have hname' := fun name h => hsource.of_isInfix (hname name h).2
      have hvalue' := hsource.of_isInfix hvalue.2
      obtain rfl := Option.some.inj hd
      exact ⟨statement_compares hselector.slashless.unbroken
        (fun name h => (hname' name h).slashless.unbroken) hvalue'.slashless.unbroken _,
        expression_compares hselector.expression hname' hvalue' _⟩
    | nthChild =>
      exact ⟨statement_nthChild hd hselector.slashless.unbroken _,
        expression_nthChild hd hselector.expression _⟩
  conditional hcondition haction := by
    obtain rfl := Option.some.inj hd
    exact block_ifBlock hcondition haction
  wait milliseconds _ hwhat := block_wait hd hselector.expression milliseconds hwhat
  retryUntil hcondition hwording := by
    obtain rfl := Option.some.inj hd
    exact block_retryComment hcondition hwording
  report hmessage hcondition := by
    obtain rfl := Option.some.inj hd
    exact block_logLine (fun a => ⟨rfl, rfl⟩) hmessage hcondition
  onFailure hhandler := by
    obtain rfl := Option.some.inj hd
    exact block_tryBlock hhandler

end Cuesheet.Target
