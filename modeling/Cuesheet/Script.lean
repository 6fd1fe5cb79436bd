import Cuesheet.Recording
import Cuesheet.Rendering
import Cuesheet.Settings

/-!
Scripts.

With settings, a script is the header of the framework, one indented block per action and the footer.
An action is its template filled in; where an assertion is asked for it is the template of the
assertion, or the code of the instruction if that has any. An instruction without code is echoed in a
comment of one line. Without settings, a script works on the page directly and asserts nothing.
-/

namespace Cuesheet.Script

def noActions : Text := "// No actions selected."

/-- The line for an assertion where no settings are given. -/
def unsupportedAssertion : Text := "// Assertion not supported in plain JS"

/-- What an echoed instruction follows. -/
def echoLead : Text := "// User validation: "

/-- The name of a script's file where none is given. -/
def defaultName : Text := "automation-script.js"

/-- A text on one line. -/
def oneLine (t : Text) : Text := Text.join " " (Text.lines t)

/-- The lines of an action without settings. -/
def literalStep (a : Action) : List Text :=
  let element := Locator.query a.selector
  let step := match a.interaction with
    | .click => element ++ ".click();"
    | .input value => element ++ ".value = \"" ++ value ++ "\";"
  if a.asserts then [step, unsupportedAssertion] else [step]

/-- The script of some actions without settings. -/
def literal : List Action → Text
  | [] => noActions
  | actions => Text.stack (actions.flatMap literalStep)

/-- The code of an action, before it is indented. -/
def step (s : Settings) (a : Action) : Text :=
  let locator := Locator.resolve s.framework s.locators a.selector
  let fill (template : Text) := Template.render template locator a.selector a.value?
  match a.assertion? with
  | none =>
    match a.interaction with
    | .click => fill s.templates.forClick
    | .input _ => fill s.templates.forInput
  | some request =>
    let line := fill (s.templates.forAssertion request.kind)
    match request.instruction with
    | none => line
    | some instruction =>
      let element : Element := { selector := a.selector, locator }
      (Instruction.compile Instruction.defaultCeiling s.framework element instruction).getD
        (line ++ "\n" ++ echoLead ++ oneLine instruction)

/-- The script of some actions under settings. -/
def configured (s : Settings) : List Action → Text
  | [] => noActions
  | actions =>
    let target := s.framework.target
    Text.stack
      (target.header ++ actions.map (fun a => Text.indent (step s a)) ++ target.footer)

/-- The script of some actions, under the user's settings if there are any. -/
def generate (user : Option UserSettings) (actions : List Action) : Text :=
  match user with
  | none => literal actions
  | some u => configured u.resolve actions

end Cuesheet.Script
