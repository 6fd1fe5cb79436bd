import Cuesheet.Text.Blank
import Cuesheet.Text.Lowercase

/-!
The frameworks a script can be written for.
-/

namespace Cuesheet

/-- A test framework, or plain scripting of the page. -/
inductive Framework where
  | plain
  | playwright
  | cypress
  | selenium
  deriving DecidableEq, Repr, Inhabited

namespace Framework

def all : List Framework := [plain, playwright, cypress, selenium]

def name : Framework → Text
  | plain => "plain"
  | playwright => "playwright"
  | cypress => "cypress"
  | selenium => "selenium"

/-- The framework of exactly the given name. -/
def withName? (t : Text) : Option Framework := all.find? (·.name = t)

/-- The framework that a setting names, whatever its case and outer blanks. Without a name, and with
one that is not known, it is plain scripting. -/
def ofSetting (setting : Option Text) : Framework :=
  match setting with
  | none => plain
  | some typed => (withName? (Text.lower (Text.trim typed))).getD plain

/-- Whether elements are looked up by their selector at every step, and not through an expression
that locates them. -/
def usesSelectors : Framework → Bool
  | cypress | selenium => true
  | plain | playwright => false

end Framework

end Cuesheet
