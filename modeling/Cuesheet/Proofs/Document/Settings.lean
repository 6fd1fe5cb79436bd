import Cuesheet.Document.Settings
import Cuesheet.Proofs.Json.Record
import Cuesheet.Proofs.Settings

/-!
Settings, decoded from what they are written as.

A user's settings are what their document says, and the document of resolved settings says them as a
user would write them.
-/

namespace Cuesheet.Document

open Json

theorem texts_ofTexts (d : Dictionary Text Text) : texts (ofTexts d).reading = .ok d :=
  Decoder.dictionary_object (k := fun name => name) (w := .string) d (fun _ _ => rfl) fun _ _ => rfl

/-- The members of templates, whatever their assertions are written from. -/
theorem userTemplates_object (t : UserTemplates) {v : Json} (hv : texts v.reading = .ok t.assertions) :
    userTemplates (Json.object (memberOf? "click" .string t.click ++ memberOf? "input" .string t.input ++
      omitIf t.assertions.isEmpty (member "assert" v))).reading = .ok t := by
  exact Decoder.Fills.record (.append (.append
    (.memberOf? t.click rfl rfl fun _ _ => rfl)
    (.memberOf? t.input rfl rfl fun _ _ => rfl) (by decide))
    (.unlessEmpty t.assertions rfl rfl hv) (by decide)) rfl

theorem userTemplates_ofUserTemplates (t : UserTemplates) :
    userTemplates (ofUserTemplates t).reading = .ok t :=
  userTemplates_object t (texts_ofTexts t.assertions)

/-- A user's settings are what their document says. -/
theorem userSettings_ofUserSettings (u : UserSettings) :
    userSettings (ofUserSettings u).reading = .ok u := by
  exact Decoder.Fills.record (.append (.append
    (.memberOf? u.framework rfl rfl fun _ _ => rfl)
    (.unlessEmpty u.locators rfl rfl (texts_ofTexts u.locators)) (by decide))
    (.member rfl (Decoder.read_of (userTemplates_ofUserTemplates u.templates))) (by decide)) rfl

/-- Assertion templates are written by name. -/
theorem ofAssertions_eq (d : Dictionary AssertionKind Text) :
    ofAssertions d = ofTexts (Settings.byName d) := by
  simp [ofAssertions, ofTexts, Settings.byName]

/-- The document of settings says them as a user would write them. -/
theorem userSettings_ofSettings (s : Settings) :
    userSettings (ofSettings s).reading = .ok s.asUser := by
  have hassertions : texts (ofAssertions s.templates.assertions).reading =
      .ok (Settings.byName s.templates.assertions) := by
    rw [ofAssertions_eq]
    exact texts_ofTexts _
  have htable : userTemplates (ofTemplateTable s.templates).reading = .ok s.asUser.templates := by
    have hempty : s.templates.assertions.isEmpty = s.asUser.templates.assertions.isEmpty :=
      List.isEmpty_map.symm
    rw [ofTemplateTable, hempty]
    exact userTemplates_object s.asUser.templates hassertions
  exact Decoder.Fills.record (.append (.append
    (.member rfl (Decoder.read_of rfl))
    (.member rfl (Decoder.read_of (texts_ofTexts s.locators))) (by decide))
    (.member rfl (Decoder.read_of htable)) (by decide)) rfl

end Cuesheet.Document
