import Cuesheet.Clause
import Cuesheet.Text.Word
import Cuesheet.Text.Digit
import Cuesheet.Instruction.Literal

/-!
The phrases an instruction can be made of.

Each function reads one shape of phrase off a lower-case text and gives the pieces that the phrase
names; what the pieces mean is decided elsewhere. Where a phrase leaves a choice, the first piece is
as short as it can be. No piece is empty.
-/

namespace Cuesheet.Instruction

/-- What follows `lead` at the front of a text, if something does. -/
def restAfter? (lead : Text) (t : Text) : Option Text :=
  (Text.after? lead t).filter (· ≠ [])

/-! ### Checks -/

/-- The value a check compares with, freed of one quote on either side. A quote that is all there is
stands for itself. -/
def unquote (t : Text) : Text :=
  let opened := match t with
    | q :: c :: rest => if isQuote q then c :: rest else t
    | _ => t
  if opened.length ≥ 2 && (opened.getLast?.any isQuote) then opened.dropLast else opened

/-- A subject at the front of a text, and what follows it. -/
def subject? (t : Text) : Option (Subject × Text) :=
  match Text.after? "text" t with
  | some rest => some (.text, rest)
  | none =>
    match Text.after? "value" t with
    | some rest => some (.value, rest)
    | none =>
      match Text.after? "attribute " t with
      | none => none
      | some rest =>
        let name := rest.takeWhile Text.isName
        if name = [] then none else some (.attribute name, rest.dropWhile Text.isName)

/-- A subject compared with a value, at the front of a text: `text starts with 'a'`. -/
def bareComparison? (comparison : Comparison) (t : Text) : Option (Subject × Text) :=
  (subject? t).bind fun (subject, rest) =>
    (restAfter? (" " ++ comparison.phrase ++ " ") rest).map fun value => (subject, unquote value)

/-- The first answer of `find` at the front of a text or after some of its leading names, each
followed by one space. `fresh` tells whether the text is at the start of a name. -/
def afterNames {α : Type} (find : Text → Option α) (fresh : Bool) : Text → Option α
  | [] => none
  | c :: t =>
    match if fresh then find (c :: t) else none with
    | some a => some a
    | none =>
      if Text.isName c then afterNames find false t
      else if c = ' ' && !fresh then afterNames find true t
      else none

/-- A comparison after any number of leading names: `the big button text starts with 'a'`. -/
def comparison? (comparison : Comparison) (t : Text) : Option (Subject × Text) :=
  afterNames (bareComparison? comparison) true t

/-- The digits of `is the 3rd child` at the front of a text. -/
def childAt? (t : Text) : Option Text :=
  (Text.after? "is the " t).bind fun rest =>
    let digits := rest.takeWhile Text.isDecimalDigit
    let ordinals : List Text := ["st", "nd", "rd", "th"]
    let ends := ordinals.any fun ordinal =>
      ((Text.after? (ordinal ++ " child") (rest.dropWhile Text.isDecimalDigit)).any Text.wordEnds)
    if digits ≠ [] && ends then some digits else none

/-- The digits of the first `is the 3rd child` in a text. -/
def nthChild? (t : Text) : Option Text := Text.findAtWord childAt? false t

/-! ### Waiting -/

/-- A unit of time, in milliseconds. -/
def units : List (Text × Nat) :=
  [("seconds", 1000), ("second", 1000), ("ms", 1), ("milliseconds", 1)]

/-- The digits, the unit and the object of `wait 5 seconds for it` at the front of a text. The
digits may follow `up to` or `for`. -/
def waitAt? (t : Text) : Option (Text × Nat × Text) :=
  (Text.after? "wait " t).bind fun rest =>
    let amount := ((Text.after? "up to " rest).orElse fun _ => Text.after? "for " rest).getD rest
    let digits := amount.takeWhile Text.isDecimalDigit
    if digits = [] then none
    else units.findSome? fun (name, milliseconds) =>
      (restAfter? (" " ++ name ++ " for ") (amount.dropWhile Text.isDecimalDigit)).map fun what =>
        (digits, milliseconds, what)

/-- The digits, the unit and the object of the first `wait 5 seconds for it` in a text. -/
def wait? (t : Text) : Option (Text × Nat × Text) := Text.findAtWord waitAt? false t

/-! ### Compound phrases -/

/-- What follows `then` where a condition ends. -/
def afterThen? (t : Text) : Option Text :=
  (restAfter? ", then " t).orElse fun _ => restAfter? " then " t

/-- The shortest condition that a `then` follows, and the action after it. -/
def splitAtThen? : Text → Option (Text × Text)
  | [] => none
  | c :: t =>
    match afterThen? t with
    | some action => some ([c], action)
    | none => (splitAtThen? t).map fun (condition, action) => (c :: condition, action)

/-- The condition and the action of `if this, then that`. -/
def conditional? (t : Text) : Option (Text × Text) := (Text.after? "if " t).bind splitAtThen?

/-- The condition of `retry until this`. -/
def retryUntil? (t : Text) : Option Text := restAfter? "retry until " t

/-- The condition, if one is given, of a message that ends here. -/
def messageEnd? : Text → Option (Option Text)
  | [] => none
  | q :: t => if !isQuote q then none else if t = [] then some none else (restAfter? " if " t).map some

/-- The shortest message that ends as it should, and its condition. -/
def splitAtMessageEnd? : Text → Option (Text × Option Text)
  | [] => none
  | c :: t =>
    match messageEnd? t with
    | some condition => some ([c], condition)
    | none => (splitAtMessageEnd? t).map fun (message, condition) => (c :: message, condition)

/-- The message and the condition, if one is given, of `report 'it' if this`. -/
def report? (t : Text) : Option (Text × Option Text) :=
  match Text.after? "report " t with
  | some (q :: rest) => if isQuote q then splitAtMessageEnd? rest else none
  | _ => none

/-- The handler of `on failure, do this`. -/
def onFailure? (t : Text) : Option Text :=
  (restAfter? "on failure, " t).orElse fun _ => restAfter? "on failure " t

/-! ### What leads a phrase -/

/-- The words that make a phrase compound when they lead it. -/
def compoundLeads : List Text := ["if", "retry until", "report", "on failure"]

/-- Whether a compound phrase leads the text. -/
def hasCompoundLead (t : Text) : Bool :=
  compoundLeads.any fun lead => (Text.after? lead t).any Text.wordEnds

end Cuesheet.Instruction
