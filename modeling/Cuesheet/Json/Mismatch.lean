import Cuesheet.Text.Quoted
import Cuesheet.Text.Digit
import Cuesheet.Json.Reading

/-!
Why a JSON text is not what it should be.

Either the text is no JSON (`malformed`), or it is and says something else than is wanted
(`mismatch`). A mismatch names what was found and what was expected.
-/

namespace Cuesheet.Json

/-- What was found in place of what is wanted. -/
inductive Found where
  | null
  | bool (b : Bool)
  | integer (n : Int)
  /-- A number of double precision, by its text. -/
  | floating (shown : Text)
  | string (t : Text)
  | sequence
  | map
  deriving DecidableEq, Repr, Inhabited

/-- How a value differs from what is wanted. -/
inductive Mismatch where
  /-- A value of another type. -/
  | type (found : Found) (expected : Text)
  /-- A value of the right type out of its range. -/
  | value (found : Found) (expected : Text)
  /-- A sequence of the wrong length. -/
  | length (found : Nat) (expected : Text)
  /-- A name that is none of the known ones. -/
  | unknownVariant (name : Text) (known : List Text)
  | missingField (name : Text)
  | duplicateField (name : Text)
  /-- A value of none of the shapes that a kind of document can have. -/
  | noShape (document : Text)
  deriving DecidableEq, Repr, Inhabited

/-- Why a JSON text cannot be used. -/
inductive Error where
  | malformed
  | mismatch (m : Mismatch)
  deriving DecidableEq, Repr, Inhabited

/-- A found value in words. -/
def Found.text : Found → Text
  | null => "null"
  | bool b => "boolean `" ++ (if b then "true" else "false" : String) ++ "`"
  | integer n => "integer `" ++ (if n < 0 then ['-'] else []) ++ Text.ofNat n.natAbs ++ "`"
  | floating shown => "floating point `" ++ shown ++ "`"
  | string t => "string " ++ Text.quoted t
  | sequence => "sequence"
  | map => "map"

/-- A name in backward quotes. -/
def ticked (name : Text) : Text := "`" ++ name ++ "`"

/-- Known names in words. -/
def oneOf : List Text → Text
  | [] => "there are no variants"
  | [a] => "expected " ++ ticked a
  | [a, b] => "expected " ++ ticked a ++ " or " ++ ticked b
  | names => "expected one of " ++ Text.join ", " (names.map ticked)

def Mismatch.message : Mismatch → Text
  | type found expected => "invalid type: " ++ found.text ++ ", expected " ++ expected
  | value found expected => "invalid value: " ++ found.text ++ ", expected " ++ expected
  | length found expected =>
    "invalid length " ++ Text.ofNat found ++ ", expected " ++ expected
  | unknownVariant name known => "unknown variant " ++ ticked name ++ ", " ++ oneOf known
  | missingField name => "missing field " ++ ticked name
  | duplicateField name => "duplicate field " ++ ticked name
  | noShape document => "data did not match any variant of " ++ document

/-- What a reading holds, for a message; what says nothing is malformed. -/
def Reading.found : Reading → Except Error Found
  | .null => .ok .null
  | .bool b => .ok (.bool b)
  | .number n =>
    match n.value? with
    | some (.integer i) => .ok (.integer i)
    | some (.floating shown) => .ok (.floating shown)
    | none => .error .malformed
  | .string (.text t) => .ok (.string t)
  | .array _ => .ok .sequence
  | .object _ => .ok .map
  | .string _ | .broken => .error .malformed

/-- The failure where another type is expected. -/
def Reading.typeError {α : Type} (r : Reading) (expected : Text) : Except Error α := do
  .error (.mismatch (.type (← r.found) expected))

end Cuesheet.Json
