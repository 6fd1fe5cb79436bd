import Cuesheet.Target
import Cuesheet.Target.Blocks
import Cuesheet.Text.Digit

/-!
Selenium scripts: elements are found by selector at every step, and checks are plain assertions.
-/

namespace Cuesheet.Target

namespace Selenium

/-- The expression that reads a subject. -/
def read (e : Element) (subject : Subject) : Text :=
  "driver.findElement(By.cssSelector('" ++ e.selector ++
    match subject with
    | .text => "')).getText()"
    | .value => "')).getAttribute('value')"
    | .attribute name => "')).getAttribute('" ++ name ++ "')"

/-- A subject compared with a value. -/
def compares (e : Element) (subject : Subject) (comparison : Comparison) (value : Text) : Text :=
  match comparison with
  | .notContains => "assert(!" ++ read e subject ++ ".includes(\"" ++ value ++ "\"));"
  | .startsWith => "assert(" ++ read e subject ++ ".startsWith(\"" ++ value ++ "\"));"
  | .endsWith => "assert(" ++ read e subject ++ ".endsWith(\"" ++ value ++ "\"));"

end Selenium

def selenium : Target where
  header :=
    ["// Selenium script generated",
      "const \x7bBuilder, By, until\x7d = require(\"selenium-webdriver\");",
      "let driver = new Builder().forBrowser(\"chrome\").build();",
      "(async function run() \x7b"]
  footer := ["\x7d)();"]
  templates := .full
    "driver.findElement(By.cssSelector(\"\x7bselector\x7d\")).click();"
    "driver.findElement(By.cssSelector(\"\x7bselector\x7d\")).sendKeys(\"\x7bvalue\x7d\");"
    "assert(driver.findElement(By.cssSelector(\"\x7bselector\x7d\")).isDisplayed());"
    "assert(driver.findElement(By.cssSelector(\"\x7bselector\x7d\")).getText() === \"\x7bvalue\x7d\");"
    ("assert(driver.findElement(By.cssSelector(\"\x7bselector\x7d\")).getAttribute(\"value\")" ++
      " === \"\x7bvalue\x7d\");")
  dialect := some {
    compares := Selenium.compares
    nthChild := fun e n =>
      "assert(driver.findElements(By.cssSelector('" ++ e.selector ++ ":nth-child(" ++
        Text.ofNat n ++ ")')).length > 0);"
    conditional := ifBlock
    wait := fun e milliseconds what =>
      "await driver.wait(until.elementLocated(By.cssSelector('" ++ e.selector ++ "')), " ++
        Text.ofNat milliseconds ++ "); // waiting for " ++ what
    retryUntil := fun condition wording => retryComment (condition.getD wording)
    report := logLine "console.log"
    onFailure := tryBlock }

end Cuesheet.Target
