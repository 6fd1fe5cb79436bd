import Cuesheet.Target
import Cuesheet.Target.Blocks
import Cuesheet.Target.Matching
import Cuesheet.Text.Digit

/-!
Cypress specifications: every step is a chain that starts from a selector.
-/

namespace Cuesheet.Target

namespace Cypress

/-- The chain that reads a subject. -/
def read (e : Element) (subject : Subject) : Text :=
  "cy.get('" ++ e.selector ++
    match subject with
    | .text => "').invoke('text')"
    | .value => "').invoke('val')"
    | .attribute name => "').invoke('attr', '" ++ name ++ "')"

/-- A subject compared with a value. -/
def compares (e : Element) (subject : Subject) (comparison : Comparison) (value : Text) : Text :=
  read e subject ++
    match comparison with
    | .notContains => ".should('not.contain', \"" ++ value ++ "\");"
    | .startsWith => ".should('match', /^" ++ Text.literalPattern value ++ "/);"
    | .endsWith => ".should('match', /" ++ Text.literalPattern value ++ "$/);"

end Cypress

def cypress : Target where
  header := ["// Cypress script generated"]
  footer := []
  templates := .full
    "cy.get(\"\x7bselector\x7d\").click();"
    "cy.get(\"\x7bselector\x7d\").type(\"\x7bvalue\x7d\");"
    "cy.get(\"\x7bselector\x7d\").should(\"exist\");"
    "cy.get(\"\x7bselector\x7d\").should(\"have.text\", \"\x7bvalue\x7d\");"
    "cy.get(\"\x7bselector\x7d\").should(\"have.value\", \"\x7bvalue\x7d\");"
  dialect := some {
    compares := Cypress.compares
    nthChild := fun e n =>
      "cy.get('" ++ e.selector ++ ":nth-child(" ++ Text.ofNat n ++ ")').should('exist');"
    conditional := fun condition action =>
      "cy.then(() => \x7b if (" ++ condition ++ ") \x7b " ++ action ++ " \x7d \x7d);"
    wait := fun e milliseconds what =>
      "cy.get('" ++ e.selector ++ "', \x7b timeout: " ++ Text.ofNat milliseconds ++
        " \x7d); // waiting for " ++ what
    retryUntil := fun _ wording =>
      "// Retry logic: use cy.retry-until plugin or custom loop for: " ++ wording
    report := logLine "cy.log"
    onFailure := fun handler =>
      "Cypress.on('fail', (e) => \x7b " ++ handler ++ "; throw e; \x7d);" }

end Cuesheet.Target
