import Cuesheet.Target

/-!
Plain scripting of the page: templates only, and no way to say an instruction.
-/

namespace Cuesheet.Target

/-- The line in place of an assertion. -/
def plainAssertion : Text := "// No assertion syntax in plain JS"

def plain : Target where
  header := []
  footer := []
  templates := .full "\x7blocator\x7d.click();" "\x7blocator\x7d.value = \"\x7bvalue\x7d\";"
    plainAssertion plainAssertion plainAssertion
  dialect := none

end Cuesheet.Target
