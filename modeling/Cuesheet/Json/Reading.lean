import Cuesheet.Json.Number
import Cuesheet.Json.Quotation

/-!
What a text says when it is read as JSON.

Reading never fails: where a text stops being JSON, its reading breaks off (`broken`). So whoever
looks at a reading in order meets what is wrong with the values before the place where the text goes
wrong. Numbers are kept as written, and of a member's name the characters between its quotes are kept
beside what they say.
-/

namespace Cuesheet.Json

/-- The name of a member. -/
structure Key where
  /-- The characters up to the next quote. -/
  raw : Text
  /-- Whether there is a next quote. -/
  closed : Bool
  /-- What the name says. -/
  name : Quotation
  deriving DecidableEq, Repr, Inhabited

mutual

/-- A value as read. -/
inductive Reading where
  | null
  | bool (b : Bool)
  | number (n : Numeral)
  | string (s : Quotation)
  | array (items : Items)
  | object (members : Members)
  /-- There is no value where one should be. -/
  | broken

inductive Items where
  | done
  | item (value : Reading) (rest : Items)
  /-- Neither an item nor the end comes. -/
  | broken

inductive Members where
  | done
  | member (key : Key) (value : Reading) (rest : Members)
  /-- Neither a member nor the end comes. -/
  | broken

end

instance : Inhabited Reading := ⟨.broken⟩

namespace Reading

/-- The text after its leading blanks; JSON knows four. -/
def skipBlanks (t : Text) : Text :=
  t.dropWhile fun c => c = ' ' || c = '\t' || c = '\n' || c = '\r'

/-- A fixed word at the front of a text, read as a value. -/
def word (w : Text) (value : Reading) (t : Text) : Reading × Option Text :=
  match Text.after? w t with
  | some rest => (value, some rest)
  | none => (broken, none)

/-- The name of a member whose opening quote has been read. -/
def key (t : Text) : Key × Option Text :=
  let raw := t.takeWhile (· ≠ '"')
  let (name, rest) := Quotation.read t
  ({ raw, closed := raw.length < t.length, name }, rest)

mutual

/-- The value at the front of a text, and what follows it if it does not break off. The first
argument bounds the steps. -/
def value : (fuel : Nat) → Text → Reading × Option Text
  | 0, _ => (broken, none)
  | fuel + 1, t =>
    match skipBlanks t with
    | 'n' :: t => word "ull" null t
    | 't' :: t => word "rue" (bool true) t
    | 'f' :: t => word "alse" (bool false) t
    | '"' :: t =>
      let (s, rest) := Quotation.read t
      (string s, rest)
    | '[' :: t =>
      match skipBlanks t with
      | ']' :: t => (array .done, some t)
      | t =>
        let (first, rest) := value fuel t
        let (others, rest) := items fuel rest
        (array (.item first others), rest)
    | '\x7b' :: t =>
      match skipBlanks t with
      | '\x7d' :: t => (object .done, some t)
      | t =>
        let (members, rest) := member fuel t
        (object members, rest)
    | t =>
      match Numeral.lex? t with
      | some (n, rest) => (number n, some rest)
      | none => (broken, none)

def items : (fuel : Nat) → Option Text → Items × Option Text
  | 0, _ | _, none => (.broken, none)
  | fuel + 1, some t =>
    match skipBlanks t with
    | ']' :: t => (.done, some t)
    | ',' :: t =>
      match skipBlanks t with
      | ']' :: _ => (.broken, none)
      | t =>
        let (next, rest) := value fuel t
        let (others, rest) := items fuel rest
        (.item next others, rest)
    | _ => (.broken, none)

/-- The member at the front of a text with those after it, and what follows the object. -/
def member : (fuel : Nat) → Text → Members × Option Text
  | 0, _ => (.broken, none)
  | fuel + 1, t =>
    match skipBlanks t with
    | '"' :: t =>
      let (k, rest) := key t
      match rest.map skipBlanks with
      | some (':' :: t) =>
        let (v, rest) := value fuel t
        let (others, rest) := members fuel rest
        (.member k v others, rest)
      | _ => (.member k broken .broken, none)
    | _ => (.broken, none)

def members : (fuel : Nat) → Option Text → Members × Option Text
  | 0, _ | _, none => (.broken, none)
  | fuel + 1, some t =>
    match skipBlanks t with
    | '\x7d' :: t => (.done, some t)
    | ',' :: t => member fuel t
    | _ => (.broken, none)

end

/-- The reading of a text, and whether nothing but blanks follows its value. Each step but the last
uses up a character, and every value takes two steps at most. -/
def ofText (t : Text) : Reading × Bool :=
  let (v, rest) := value (2 * t.length + 2) t
  (v, (rest.map skipBlanks).any (·.isEmpty))

end Reading

mutual

/-- Whether the reading breaks off nowhere. -/
def Reading.isWhole : Reading → Bool
  | .null | .bool _ | .number _ => true
  | .string s => s ≠ .broken
  | .array items => items.isWhole
  | .object members => members.isWhole
  | .broken => false

def Items.isWhole : Items → Bool
  | .done => true
  | .item value rest => value.isWhole && rest.isWhole
  | .broken => false

def Members.isWhole : Members → Bool
  | .done => true
  | .member key value rest => key.name ≠ .broken && value.isWhole && rest.isWhole
  | .broken => false

end

mutual

/-- Whether every part of the reading says something and arrays and objects nest at most `levels`
deep. -/
def Reading.isSound (levels : Nat) : Reading → Bool
  | .null | .bool _ => true
  | .number n => n.value?.isSome
  | .string (.text _) => true
  | .string _ | .broken => false
  | .array items => 0 < levels && items.isSound (levels - 1)
  | .object members => 0 < levels && members.isSound (levels - 1)

def Items.isSound (levels : Nat) : Items → Bool
  | .done => true
  | .item value rest => value.isSound levels && rest.isSound levels
  | .broken => false

def Members.isSound (levels : Nat) : Members → Bool
  | .done => true
  | .member key value rest =>
    match key.name with
    | .text _ => value.isSound levels && rest.isSound levels
    | _ => false
  | .broken => false

end

/-- How deep arrays and objects may nest where a value is kept as a whole. -/
def nestingLimit : Nat := 127

end Cuesheet.Json
