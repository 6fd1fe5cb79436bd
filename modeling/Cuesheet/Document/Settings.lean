import Cuesheet.Json
import Cuesheet.Json.Decoding
import Cuesheet.Settings

/-!
Settings as JSON documents.

The user's settings keep to what was typed: absent entries are left out, and so are empty
dictionaries, except that the templates are always there. Resolved settings are written under the
same names, so they can be read as a user's settings again.
-/

namespace Cuesheet.Document

open Json

def frameworks : Variants Framework where
  names := Framework.all.map fun f => (f.name, f)

/-- The names of the kinds of assertion; two of the kinds have three. -/
def assertionKinds : Variants AssertionKind where
  names :=
    [("exists", .present), ("has text", .hasText), ("has-text", .hasText), ("has_text", .hasText),
      ("value is", .valueIs), ("value-is", .valueIs), ("value_is", .valueIs)]

/-- A dictionary with texts for keys and values as an object. -/
def ofTexts (d : Dictionary Text Text) : Json :=
  .object (d.entries.map fun e => (e.1, .string e.2))

/-- A dictionary of assertion templates as an object. -/
def ofAssertions (d : Dictionary AssertionKind Text) : Json :=
  .object (d.entries.map fun e => (e.1.key, .string e.2))

def ofUserTemplates (t : UserTemplates) : Json :=
  .object (memberOf? "click" .string t.click ++ memberOf? "input" .string t.input ++
    omitIf t.assertions.isEmpty (member "assert" (ofTexts t.assertions)))

def ofTemplateTable (t : TemplateTable) : Json :=
  .object (memberOf? "click" .string t.click ++ memberOf? "input" .string t.input ++
    omitIf t.assertions.isEmpty (member "assert" (ofAssertions t.assertions)))

def ofUserSettings (u : UserSettings) : Json :=
  .object (memberOf? "framework" .string u.framework ++
    omitIf u.locators.isEmpty (member "locatorMap" (ofTexts u.locators)) ++
    member "actions" (ofUserTemplates u.templates))

def ofSettings (s : Settings) : Json :=
  .object (member "framework" (.string s.framework.name) ++
    member "locatorMap" (ofTexts s.locators) ++ member "actions" (ofTemplateTable s.templates))

/-- A dictionary with texts for keys and values. -/
def texts : Decoder (Dictionary Text Text) := Decoder.dictionary Decoder.keyText Decoder.text

/-- A kind of assertion as the name of a member. -/
def assertionKey (k : Key) : Except Error AssertionKind := do
  assertionKinds.named (← Decoder.keyText k)

def userTemplates : Decoder UserTemplates :=
  Decoder.record "struct RawTemplates"
    [.of "click" [] (Decoder.nullable Decoder.text) fun t x => { t with click := x },
      .of "input" [] (Decoder.nullable Decoder.text) fun t x => { t with input := x },
      .of "assert" [] texts fun t x => { t with assertions := x }]
    {}

def templateTable : Decoder TemplateTable :=
  Decoder.record "struct ActionTemplates"
    [.of "click" [] (Decoder.nullable Decoder.text) fun t x => { t with click := x },
      .of "input" [] (Decoder.nullable Decoder.text) fun t x => { t with input := x },
      .of "assert" [] (Decoder.dictionary assertionKey Decoder.text)
        fun t x => { t with assertions := x }]
    {}

def userSettings : Decoder UserSettings :=
  Decoder.record "struct RawConfig"
    [.of "framework" [] (Decoder.nullable Decoder.text) fun u x => { u with framework := x },
      .of "locatorMap" [] texts fun u x => { u with locators := x },
      .of "actions" ["actionTemplates"] userTemplates fun u x => { u with templates := x }]
    {}

end Cuesheet.Document
