import Cuesheet.Locator
import Cuesheet.Target.Catalog

/-!
Settings of a script.

What a user writes (`UserSettings`) may leave anything out. `UserSettings.resolve` starts from the
templates of the framework and lays the user's over them, entry by entry: a template of blanks counts
as none, an assertion is keyed by any spelling of its kind, and of two spellings of one kind the
later in the order of keys wins. So in resolved `Settings` every template is there.
-/

namespace Cuesheet

/-- Templates as a user writes them; assertions are keyed as typed. -/
structure UserTemplates where
  click : Option Text := none
  input : Option Text := none
  assertions : Dictionary Text Text := ∅
  deriving DecidableEq, Inhabited

/-- Settings as a user writes them. -/
structure UserSettings where
  /-- The name of the framework, as typed. -/
  framework : Option Text := none
  locators : Locators := ∅
  templates : UserTemplates := {}
  deriving DecidableEq, Inhabited

/-- Settings with nothing left open. -/
structure Settings where
  framework : Framework
  locators : Locators
  templates : TemplateTable
  deriving DecidableEq, Inhabited

namespace TemplateTable

/-- A table with an assertion template of the user's laid over it. -/
def customizeAssertion (table : TemplateTable) (key template : Text) : TemplateTable :=
  match AssertionKind.ofKey? key, Text.nonBlank? template with
  | some kind, some t => { table with assertions := table.assertions.insert kind t }
  | _, _ => table

/-- A table with the user's templates laid over it. -/
def customize (table : TemplateTable) (user : UserTemplates) : TemplateTable :=
  user.assertions.entries.foldl (fun t e => t.customizeAssertion e.1 e.2)
    { table with
      click := (user.click.bind Text.nonBlank?).or table.click
      input := (user.input.bind Text.nonBlank?).or table.input }

end TemplateTable

namespace Settings

/-- The settings a framework starts from. -/
def ofFramework (f : Framework) : Settings where
  framework := f
  locators := ∅
  templates := f.target.templates

/-- The settings where nothing is set. -/
def default : Settings := ofFramework .plain

end Settings

/-- The settings that a user's settings come to. -/
def UserSettings.resolve (user : UserSettings) : Settings :=
  let framework := Framework.ofSetting user.framework
  { framework
    locators := user.locators
    templates := framework.target.templates.customize user.templates }

end Cuesheet
