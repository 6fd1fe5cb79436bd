import Cuesheet.Target.Catalog
import Cuesheet.Proofs.Target.Cypress
import Cuesheet.Proofs.Target.Playwright
import Cuesheet.Proofs.Target.Selenium

/-!
Checks in every framework.

However a framework says a check, it says it as a call. What an element and an attribute's name bring
along ends no line, so the lines of a check end only where they do in its value.
-/

namespace Cuesheet

open Script

namespace Framework

variable {f : Framework} {d : Dialect} {e : Element} {check : Predicate}

theorem call_check (hd : f.dialect = some d) (e : Element) (check : Predicate) :
    Call (d.check e check) := by
  cases f with
  | plain => cases hd
  | playwright =>
    cases check with
    | compares subject comparison value =>
      obtain rfl := Option.some.inj hd
      exact Target.Playwright.call_compares e subject comparison value
    | nthChild n => exact Target.Playwright.call_nthChild hd e n
  | cypress =>
    cases check with
    | compares subject comparison value =>
      obtain rfl := Option.some.inj hd
      exact Target.Cypress.call_compares e subject comparison value
    | nthChild n => exact Target.Cypress.call_nthChild hd e n
  | selenium =>
    cases check with
    | compares subject comparison value =>
      obtain rfl := Option.some.inj hd
      exact Target.Selenium.call_compares e subject comparison value
    | nthChild n => exact Target.Selenium.call_nthChild hd e n

/-- Where lines end in a check, they end in its value. -/
theorem mem_check_iff (hd : f.dialect = some d) {c : Char} (hc : c ∈ lineEnds)
    (hselector : c ∉ e.selector) (hlocator : c ∉ e.locator) (hname : c ∉ check.name) :
    c ∈ d.check e check ↔ c ∈ check.value := by
  cases check with
  | compares subject comparison value =>
    have hsubject : ∀ name, subject = .attribute name → c ∉ name := by
      rintro name rfl
      exact hname
    cases f with
    | plain => cases hd
    | playwright =>
      obtain rfl := Option.some.inj hd
      exact Target.Playwright.mem_compares_iff hc hlocator hsubject comparison
    | cypress =>
      obtain rfl := Option.some.inj hd
      exact Target.Cypress.mem_compares_iff hc hselector hsubject comparison
    | selenium =>
      obtain rfl := Option.some.inj hd
      exact Target.Selenium.mem_compares_iff hc hselector hsubject comparison
  | nthChild n =>
    refine iff_of_false ?_ List.not_mem_nil
    cases f with
    | plain => cases hd
    | playwright => exact Target.Playwright.not_mem_nthChild hd hc hselector n
    | cypress => exact Target.Cypress.not_mem_nthChild hd hc hselector n
    | selenium => exact Target.Selenium.not_mem_nthChild hd hc hselector n

end Framework

end Cuesheet
