import Cuesheet.Target.Cypress
import Cuesheet.Target.Playwright
import Cuesheet.Target.Selenium
import Cuesheet.Proofs.Script.Pattern
import Cuesheet.Proofs.Script.StringLiteral

/-!
Prefixes and suffixes in every framework.

Two frameworks hand a regular-expression literal to a matcher, the third calls a method of the string
with a string literal. Read as a script reads them, the literals end where they are closed, and all three
ask whether the string begins, or ends, with the value (`affixes_alike`).
-/

namespace Cuesheet.Target

open Script

/-- The code hands a regular-expression literal to what `lead` calls, `rest` closes the call, and the
pattern matches the strings in `holds` and no others. -/
def Matches (code lead rest : Text) (holds : List Nat → Prop) : Prop :=
  ∃ p, (Text.after? lead code).bind pattern? = some (p, rest) ∧ ∀ x, occurs p x = true ↔ holds x

/-- The code hands a string literal to the method of a string that `lead` calls, `rest` closes the call,
and the method answers yes for the strings in `holds` and no others. -/
def Calls (method : (string argument : List Nat) → Bool) (code lead rest : Text)
    (holds : List Nat → Prop) : Prop :=
  ∃ w, (Text.after? lead code).bind string? = some (w, rest) ∧ ∀ x, method x w = true ↔ holds x

/-- The method of a string that tells whether it begins with another. -/
def startsWith (string argument : List Nat) : Bool := argument.isPrefixOf string

/-- The method of a string that tells whether it ends with another. -/
def endsWith (string argument : List Nat) : Bool := argument.isSuffixOf string

theorem startsWith_iff {x w : List Nat} : startsWith x w = true ↔ w <+: x :=
  List.isPrefixOf_iff_prefix

theorem endsWith_iff {x w : List Nat} : endsWith x w = true ↔ w <:+ x :=
  List.isSuffixOf_iff_suffix

/-- A value that a string literal and a regular-expression literal can hold: on one line, and without
double quotes and backslashes. -/
def Quotable (value : Text) : Prop := ∀ c ∈ value, c ≠ '"' ∧ c ≠ '\\' ∧ c ∉ lineEnds

instance (value : Text) : Decidable (Quotable value) := List.decidableBAll _ value

variable {value rest : Text}

theorem Quotable.inline (h : Quotable value) : Inline value := fun c hc => (h c hc).2.2

/-! ### The literals -/

/-- The literal of a prefix is the start and the value. -/
theorem pattern?_start (h : Inline value) (hrest : startsName rest = false) :
    pattern? ("/^" ++ Text.literalPattern value ++ '/' :: rest) =
      some (.start :: exactly (units value), rest) := by
  refine pattern?_of_patternFrom (List.cons_ne_nil _ _) ?_ hrest
  have hclose : patternFrom false ('/' :: rest) = some ([], rest) := rfl
  show prepend [.start] (patternFrom false (Text.literalPattern value ++ '/' :: rest)) = _
  rw [patternFrom_literalPattern h, hclose, prepend_some, prepend_some, List.append_nil]
  rfl

/-- The literal of a suffix is the value and the end. -/
theorem pattern?_finish (h : Inline value) (hrest : startsName rest = false) :
    pattern? ("/" ++ Text.literalPattern value ++ '$' :: '/' :: rest) =
      some (exactly (units value) ++ [.finish], rest) := by
  refine pattern?_of_patternFrom (by simp) ?_ hrest
  have hclose : patternFrom false ('$' :: '/' :: rest) = some ([.finish], rest) := rfl
  show patternFrom false (Text.literalPattern value ++ '$' :: '/' :: rest) = _
  rw [patternFrom_literalPattern h, hclose, prepend_some]

/-! ### The calls -/

/-- A call with the literal of a prefix asks whether a string begins with the value. -/
theorem matches_start (h : Inline value) (read call : Text) (hrest : startsName rest = false) :
    Matches (read ++ ((call ++ "/^") ++ Text.literalPattern value ++ '/' :: rest)) (read ++ call) rest
      (units value <+: ·) := by
  refine ⟨.start :: exactly (units value), ?_, fun x => occurs_start_iff⟩
  have hcode : read ++ ((call ++ "/^") ++ Text.literalPattern value ++ '/' :: rest) =
      (read ++ call) ++ ("/^" ++ Text.literalPattern value ++ '/' :: rest) := by
    simp only [List.append_assoc]
  rw [hcode, Text.after?_append, Option.bind_some, pattern?_start h hrest]

/-- A call with the literal of a suffix asks whether a string ends with the value. -/
theorem matches_finish (h : Inline value) (read call : Text) (hrest : startsName rest = false) :
    Matches (read ++ ((call ++ "/") ++ Text.literalPattern value ++ '$' :: '/' :: rest)) (read ++ call)
      rest (units value <:+ ·) := by
  refine ⟨exactly (units value) ++ [.finish], ?_, fun x => occurs_finish_iff⟩
  have hcode : read ++ ((call ++ "/") ++ Text.literalPattern value ++ '$' :: '/' :: rest) =
      (read ++ call) ++ ("/" ++ Text.literalPattern value ++ '$' :: '/' :: rest) := by
    simp only [List.append_assoc]
  rw [hcode, Text.after?_append, Option.bind_some, pattern?_finish h hrest]

/-- A method called with a value in quotes is asked about the value. -/
theorem calls_quoted (h : Quotable value) {method : List Nat → List Nat → Bool}
    {holds : List Nat → Prop} (hmethod : ∀ x, method x (units value) = true ↔ holds x)
    (read call rest : Text) :
    Calls method (read ++ (call ++ "\"") ++ value ++ '"' :: rest) (read ++ call) rest holds := by
  refine ⟨units value, ?_, hmethod⟩
  have hcode : read ++ (call ++ "\"") ++ value ++ '"' :: rest =
      (read ++ call) ++ '"' :: (value ++ '"' :: rest) := by
    simp only [List.append_assoc]
    rfl
  rw [hcode, Text.after?_append, Option.bind_some, says_self h rest]

/-- **The frameworks mean the same by a prefix and by a suffix.** Whatever the element and the subject,
the literals end where the call closes them and the three calls ask of any string whether it begins, or
ends, with the value; for the string of a text that is whether the text does. Patterns of different texts
differ, and the pattern of two texts one after the other is the one pattern after the other. -/
theorem affixes_alike :
    (∀ (e : Element) (subject : Subject) (value : Text), Quotable value →
      (Matches (Playwright.compares e subject .startsWith value)
          ("expect(" ++ Playwright.read e subject ++ ").toMatch(") ");" (units value <+: ·) ∧
        Matches (Cypress.compares e subject .startsWith value)
          (Cypress.read e subject ++ ".should('match', ") ");" (units value <+: ·) ∧
        Calls startsWith (Selenium.compares e subject .startsWith value)
          ("assert(" ++ Selenium.read e subject ++ ".startsWith(") "));" (units value <+: ·)) ∧
      (Matches (Playwright.compares e subject .endsWith value)
          ("expect(" ++ Playwright.read e subject ++ ").toMatch(") ");" (units value <:+ ·) ∧
        Matches (Cypress.compares e subject .endsWith value)
          (Cypress.read e subject ++ ".should('match', ") ");" (units value <:+ ·) ∧
        Calls endsWith (Selenium.compares e subject .endsWith value)
          ("assert(" ++ Selenium.read e subject ++ ".endsWith(") "));" (units value <:+ ·))) ∧
    (∀ value x : Text, (units value <+: units x ↔ value <+: x) ∧
      (units value <:+ units x ↔ value <:+ x)) ∧
    Function.Injective Text.literalPattern ∧
    ∀ s t : Text, Text.literalPattern (s ++ t) = Text.literalPattern s ++ Text.literalPattern t := by
  have hclose : startsName ");" = false := rfl
  refine ⟨fun e subject value h => ⟨?prefixes, ?suffixes⟩, fun value x => ?texts,
    literalPattern_injective, literalPattern_append⟩
  case prefixes =>
    exact ⟨matches_start h.inline ("expect(" ++ Playwright.read e subject) ").toMatch(" hclose,
      matches_start h.inline (Cypress.read e subject) ".should('match', " hclose,
      calls_quoted h (fun _ => startsWith_iff) ("assert(" ++ Selenium.read e subject) ".startsWith("
        "));"⟩
  case suffixes =>
    exact ⟨matches_finish h.inline ("expect(" ++ Playwright.read e subject) ").toMatch(" hclose,
      matches_finish h.inline (Cypress.read e subject) ".should('match', " hclose,
      calls_quoted h (fun _ => endsWith_iff) ("assert(" ++ Selenium.read e subject) ".endsWith("
        "));"⟩
  case texts => exact ⟨units_prefix_iff, units_suffix_iff⟩

/-- A value made of both anchors, a metacharacter and the slash that would close a literal. -/
theorem affixes_alike_anchors :
    let e : Element := { selector := "#a", locator := "page.locator('#a')" }
    let value : Text := "$1.0/^"
    Quotable value ∧
      Playwright.compares e .text .startsWith value =
        ("expect(await page.locator('#a').textContent()).toMatch(/^\\$1\\.0\\/\\^/);" : Text) ∧
      Matches (Playwright.compares e .text .startsWith value)
        ("expect(" ++ Playwright.read e .text ++ ").toMatch(") ");" (units value <+: ·) ∧
      Matches (Cypress.compares e .text .endsWith value)
        (Cypress.read e .text ++ ".should('match', ") ");" (units value <:+ ·) ∧
      Calls endsWith (Selenium.compares e .text .endsWith value)
        ("assert(" ++ Selenium.read e .text ++ ".endsWith(") "));" (units value <:+ ·) := by
  intro e value
  have hvalue : Quotable value := by decide
  obtain ⟨hprefixes, hsuffixes⟩ := affixes_alike.1 e .text value hvalue
  exact ⟨hvalue, rfl, hprefixes.1, hsuffixes.2.1, hsuffixes.2.2⟩

end Cuesheet.Target
