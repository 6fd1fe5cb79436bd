import Cuesheet.Target
import Cuesheet.Target.Blocks
import Cuesheet.Target.Matching
import Cuesheet.Text.Digit

/-!
Playwright tests: elements are located by an expression, and checks are expectations.
-/

namespace Cuesheet.Target

namespace Playwright

/-- The expression that reads a subject. -/
def read (e : Element) : Subject → Text
  | .text => "await " ++ e.locator ++ ".textContent()"
  | .value => "await " ++ e.locator ++ ".inputValue()"
  | .attribute name => "(await " ++ e.locator ++ ".getAttribute(\"" ++ name ++ "\"))"

/-- A subject compared with a value. -/
def compares (e : Element) (subject : Subject) (comparison : Comparison) (value : Text) : Text :=
  "expect(" ++ read e subject ++
    match comparison with
    | .notContains => ").not.toContain(\"" ++ value ++ "\");"
    | .startsWith => ").toMatch(/^" ++ Text.literalPattern value ++ "/);"
    | .endsWith => ").toMatch(/" ++ Text.literalPattern value ++ "$/);"

end Playwright

def playwright : Target where
  header :=
    ["// Playwright script generated",
      "import \x7b test, expect \x7d from '@playwright/test';",
      "test('automation', async (\x7b page \x7d) => \x7b"]
  footer := ["\x7d);"]
  templates := .full
    "await \x7blocator\x7d.click();"
    "await \x7blocator\x7d.fill(\"\x7bvalue\x7d\");"
    "await expect(\x7blocator\x7d).toBeVisible();"
    "await expect(\x7blocator\x7d).toHaveText(\"\x7bvalue\x7d\");"
    "await expect(\x7blocator\x7d).toHaveValue(\"\x7bvalue\x7d\");"
  dialect := some {
    compares := Playwright.compares
    nthChild := fun e n =>
      "await expect(page.locator('" ++ e.selector ++ ":nth-child(" ++ Text.ofNat n ++
        ")')).toBeVisible();"
    conditional := ifBlock
    wait := fun e milliseconds what =>
      "await " ++ e.locator ++ ".waitFor(\x7b timeout: " ++ Text.ofNat milliseconds ++
        " \x7d); // waiting for " ++ what
    retryUntil := fun condition wording => retryComment (condition.getD wording)
    report := logLine "console.log"
    onFailure := tryBlock }

end Cuesheet.Target
