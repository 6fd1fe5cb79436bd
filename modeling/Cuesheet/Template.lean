import Cuesheet.Assertion

/-!
Templates of script lines.

A template is a text with placeholders for the locator, the selector and the recorded value. They are
filled in that order, each wherever it stands in the text as it is by then; a value that was not
recorded leaves its placeholder in place.
-/

namespace Cuesheet

/-- What a template leaves open. -/
inductive Placeholder where
  | locator
  | selector
  | value
  deriving DecidableEq, Repr

/-- The placeholder as a template writes it. -/
def Placeholder.mark : Placeholder → Text
  | .locator => "\x7blocator\x7d"
  | .selector => "\x7bselector\x7d"
  | .value => "\x7bvalue\x7d"

namespace Text

/-- The text with `filling` in place of each `mark`, found from the left, after `skip` more
characters that belong to a mark already filled. -/
def fillFrom (mark filling : Text) : (skip : Nat) → Text → Text
  | _, [] => []
  | skip + 1, _ :: t => fillFrom mark filling skip t
  | 0, c :: t =>
    match after? mark (c :: t) with
    | some _ => filling ++ fillFrom mark filling (mark.length - 1) t
    | none => c :: fillFrom mark filling 0 t

/-- The text with `filling` in place of each `mark`. -/
def fill (mark filling t : Text) : Text := fillFrom mark filling 0 t

end Text

/-- A template with its placeholders filled. -/
def Template.render (template locator selector : Text) (value : Option Text) : Text :=
  let line := Text.fill Placeholder.selector.mark selector
    (Text.fill Placeholder.locator.mark locator template)
  match value with
  | some v => Text.fill Placeholder.value.mark v line
  | none => line

/-- A table of templates; entries may be missing. -/
structure TemplateTable where
  click : Option Text := none
  input : Option Text := none
  assertions : Dictionary AssertionKind Text := ∅
  deriving DecidableEq, Inhabited

namespace TemplateTable

/-- The template of clicks where a table has none. -/
def defaultClick : Text := "\x7blocator\x7d.click();"

/-- The template of inputs where a table has none. -/
def defaultInput : Text := "\x7blocator\x7d.value = \"\x7bvalue\x7d\";"

def forClick (t : TemplateTable) : Text := t.click.getD defaultClick

def forInput (t : TemplateTable) : Text := t.input.getD defaultInput

/-- The template of a kind of assertion. Where the kind has none it is that of presence, and where
that is missing too, it is empty. -/
def forAssertion (t : TemplateTable) (kind : AssertionKind) : Text :=
  ((t.assertions.get? kind).orElse fun _ => t.assertions.get? .present).getD []

def full (click input present hasText valueIs : Text) : TemplateTable where
  click := some click
  input := some input
  assertions := .ofList [(.present, present), (.hasText, hasText), (.valueIs, valueIs)]

end TemplateTable

end Cuesheet
