import Cuesheet.Review
import Cuesheet.Script

/-!
A working session: a recording, its review and the settings, changed step by step.
-/

namespace Cuesheet

structure Session where
  actions : List Action := []
  review : Review := {}
  settings : Option UserSettings := none
  deriving DecidableEq, Inhabited

/-- A template slot of the settings. -/
inductive TemplateSlot where
  | click
  | input
  /-- An assertion, by the key it is given. -/
  | assertion (key : Text)
  deriving DecidableEq, Repr

namespace Session

def record (s : Session) (a : Action) : Session := { s with actions := s.actions ++ [a] }

/-- The session with its last action changed, and that action; none where there is no action. -/
def reviseLast (s : Session) (revise : Action → Action) : Option (Session × Action) :=
  s.actions.getLast?.map fun a =>
    ({ s with actions := s.actions.dropLast ++ [revise a] }, revise a)

/-- The session with its settings changed, starting from empty ones where there are none. -/
def configure (s : Session) (change : UserSettings → UserSettings) : Session :=
  { s with settings := some (change (s.settings.getD {})) }

def setFramework (s : Session) (name : Option Text) : Session :=
  s.configure fun u => { u with framework := name }

def setLocator (s : Session) (selector locator : Text) : Session :=
  s.configure fun u => { u with locators := u.locators.insert selector locator }

/-- The session with a template set. An assertion's template can only be given, not taken away. -/
def setTemplate (s : Session) (slot : TemplateSlot) (template : Option Text) : Session :=
  s.configure fun u =>
    let t := u.templates
    { u with
      templates := match slot with
        | .click => { t with click := template }
        | .input => { t with input := template }
        | .assertion key =>
          match template with
          | none => t
          | some text => { t with assertions := t.assertions.insert key text } }

/-- The settings that the session comes to. -/
def resolved (s : Session) : Settings :=
  match s.settings with
  | none => .default
  | some u => u.resolve

def placesBeyond (s : Session) : List Nat := s.review.placesBeyond s.actions.length

def applyReview (s : Session) : Session := { s with actions := s.review.apply s.actions }

def script (s : Session) : Text := Script.generate s.settings s.actions

def preview (s : Session) : Text := s.applyReview.script

end Session

end Cuesheet
