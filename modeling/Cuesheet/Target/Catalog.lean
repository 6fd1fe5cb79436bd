import Cuesheet.Framework
import Cuesheet.Target.Plain
import Cuesheet.Target.Playwright
import Cuesheet.Target.Cypress
import Cuesheet.Target.Selenium

/-!
The target of each framework.
-/

namespace Cuesheet.Framework

def target : Framework → Target
  | plain => .plain
  | playwright => .playwright
  | cypress => .cypress
  | selenium => .selenium

/-- How a framework says instructions, if it can. -/
def dialect (f : Framework) : Option Dialect := f.target.dialect

end Cuesheet.Framework
