import Cuesheet.Dictionary
import Cuesheet.Json.Mismatch

/-!
Making values of readings.

A decoder looks at a reading in order, and the first thing wrong is what it reports. A record may be
written as an object, whose members come in any order, or as an array of its fields; it lists its
fields with what each does to the record. A field given twice is an error, an unknown one is looked
at only far enough to see that it is JSON, and fields that an array lacks keep their defaults. Of the
entries of a dictionary with one key the last counts.
-/

namespace Cuesheet.Json

/-- What makes a value of a reading. -/
abbrev Decoder (α : Type) := Reading → Except Error α

def fail {α : Type} (m : Mismatch) : Except Error α := .error (.mismatch m)

/-- A value known by one of several names. -/
structure Variants (α : Type) where
  /-- The names with their values, in the order in which a message lists them. -/
  names : List (Text × α)

/-- The value of a name. -/
def Variants.named {α : Type} (vs : Variants α) (name : Text) : Except Error α :=
  match vs.names.find? (·.1 = name) with
  | some (_, a) => .ok a
  | none => fail (.unknownVariant name (vs.names.map (·.1)))

/-- A field of a record under construction. -/
structure FieldRule (σ : Type) where
  /-- The name that a message uses. -/
  name : Text
  /-- Other names of the field. -/
  aliases : List Text := []
  /-- What the field's value does to the record. -/
  read : σ → Decoder σ

/-- Whether a name is one of the field's. -/
def FieldRule.answersTo {σ : Type} (f : FieldRule σ) (name : Text) : Bool :=
  f.name = name || f.aliases.contains name

/-- A field whose decoded value is put into the record. -/
def FieldRule.of {σ α : Type} (name : Text) (aliases : List Text) (d : Decoder α)
    (put : σ → α → σ) : FieldRule σ where
  name := name
  aliases := aliases
  read := fun s r => put s <$> d r

namespace Decoder

def text : Decoder Text
  | .string (.text t) => .ok t
  | r => r.typeError "a string"

def bool : Decoder Bool
  | .bool b => .ok b
  | r => r.typeError "a boolean"

/-- A number as a whole number from zero on, of the type that is expected. -/
def naturalOf (expected : Text) (n : Numeral) : Except Error Nat :=
  match n.value? with
  | none => .error .malformed
  | some (.integer i) =>
    if i < 0 then fail (.value (.integer i) expected) else .ok i.toNat
  | some (.floating shown) => fail (.type (.floating shown) expected)

def natural (expected : Text) : Decoder Nat
  | .number n => naturalOf expected n
  | r => r.typeError expected

/-- A value or null. -/
def nullable {α : Type} (d : Decoder α) : Decoder (Option α)
  | .null => .ok none
  | r => some <$> d r

def items {α : Type} (d : Decoder α) : Items → Except Error (List α)
  | .done => .ok []
  | .item value rest => do
    let a ← d value
    return a :: (← items d rest)
  | .broken => .error .malformed

def list {α : Type} (d : Decoder α) : Decoder (List α)
  | .array is => items d is
  | r => r.typeError "a sequence"

/-- The text that the name of a member says. -/
def keyText (k : Key) : Except Error Text :=
  match k.name with
  | .text t => .ok t
  | _ => .error .malformed

/-- The number that the name of a member is. Its characters are taken as they are written. -/
def keyIndex (k : Key) : Except Error Nat := do
  match Numeral.lex? k.raw with
  | none => .error .malformed
  | some (n, rest) =>
    let i ← naturalOf "usize" n
    if rest = [] && k.closed then return i else .error .malformed

section Dictionary

variable {κ α : Type} [Ord κ] [Std.TransOrd κ] [Std.LawfulEqOrd κ]

/-- The members of an object put into a dictionary. -/
def entries (key : Key → Except Error κ) (d : Decoder α) (into : Dictionary κ α) :
    Members → Except Error (Dictionary κ α)
  | .done => .ok into
  | .member k value rest => do
    let k ← key k
    let a ← d value
    entries key d (into.insert k a) rest
  | .broken => .error .malformed

/-- An object as a dictionary. -/
def dictionary (key : Key → Except Error κ) (d : Decoder α) : Decoder (Dictionary κ α)
  | .object members => entries key d ∅ members
  | r => r.typeError "a map"

end Dictionary

/-! ### Names out of a fixed set -/

/-- A name in the place of an identifier. -/
def identifier {α : Type} (vs : Variants α) : Decoder α
  | .string (.text t) => vs.named t
  | r => r.typeError "variant identifier"

/-- What follows the name of a variant that carries nothing, in an object. -/
def unit : Decoder Unit
  | .null => .ok ()
  | r => r.typeError "unit"

/-- A variant that carries nothing: its name, or an object with its name and null. -/
def variant {α : Type} (vs : Variants α) : Decoder α
  | .string (.text t) => vs.named t
  | .object (.member k value rest) => do
    let a ← vs.named (← keyText k)
    unit value
    match rest with
    | .done => return a
    | _ => .error .malformed
  | _ => .error .malformed

/-! ### Records -/

section Record

variable {σ : Type} (fields : List (FieldRule σ)) (other : σ → Text → Decoder σ)

/-- The members of an object as fields. `given` holds the names of the fields given so far, and
`other` is told the members that are no field. -/
def membersInto (given : List Text) (s : σ) : Members → Except Error σ
  | .done => .ok s
  | .member k value rest => do
    let name ← keyText k
    match fields.find? (·.answersTo name) with
    | some f =>
      if given.contains f.name then fail (.duplicateField f.name)
      else membersInto (f.name :: given) (← f.read s value) rest
    | none => membersInto given (← other s name value) rest
  | .broken => .error .malformed

end Record

/-- A member that is no field, looked at only far enough. -/
def ignore {σ : Type} (s : σ) (_ : Text) : Decoder σ := fun r =>
  if r.isWhole then .ok s else .error .malformed

/-- The items of an array as fields, in order. -/
def itemsInto {σ : Type} : List (FieldRule σ) → σ → Items → Except Error σ
  | _, s, .done => .ok s
  | f :: fields, s, .item value rest => do itemsInto fields (← f.read s value) rest
  | [], _, .item .. | _, _, .broken => .error .malformed

/-- A record with the given fields and defaults. -/
def record {σ : Type} (expected : Text) (fields : List (FieldRule σ)) (defaults : σ) : Decoder σ
  | .object members => membersInto fields ignore [] defaults members
  | .array is => itemsInto fields defaults is
  | r => r.typeError expected

end Decoder

/-- What a decoder makes of a text. Nothing but blanks may follow the value. -/
def decode {α : Type} (d : Decoder α) (t : Text) : Except Error α := do
  let (reading, ended) := Reading.ofText t
  let a ← d reading
  if ended then return a else .error .malformed

end Cuesheet.Json
