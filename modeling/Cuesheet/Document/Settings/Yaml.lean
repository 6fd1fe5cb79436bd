import Cuesheet.Settings
import Cuesheet.Yaml.Node

/-!
Settings as YAML documents.

Where a text is wanted any scalar will do, as it is written, so numbers and truth values need no
quotes. Where a template or a name may be left out, so may its text, and null is the same. A record or
dictionary is a mapping, or nothing at all; other than in JSON it is no sequence.
-/

namespace Cuesheet.Document

open Yaml

namespace FromYaml

def text? (t : Tree) (n : Node) : Option Text :=
  match t.resolve n with
  | .scalar _ _ text => some text
  | _ => none

/-- The ways to write null. -/
def nulls : List Text := ["null", "Null", "NULL", "~"]

def nullTag : Text := "tag:yaml.org,2002:null"

/-- The text of a node that may be null. Only a plain scalar without a tag, or with the tag of null, is
null; what is tagged so has to be written so. -/
def textOrNull? (t : Tree) (n : Node) : Option (Option Text) :=
  match t.resolve n with
  | .scalar tag isPlain text =>
    let isNull := nulls.contains text
    if !isPlain then some (some text)
    else
      match tag with
      | none => some (if isNull || text = [] then none else some text)
      | some tag =>
        if tag ≠ nullTag then some (some text) else if isNull then some none else none
  | _ => none

/-- The entries of a mapping, or of nothing. -/
def entries? (t : Tree) (n : Node) : Option (List (Node × Node)) :=
  match t.resolve n with
  | .mapping entries => some entries
  | .scalar _ true [] => some []
  | _ => none

/-- A dictionary of texts. Of entries with one key the last counts. -/
def texts? (t : Tree) (n : Node) : Option (Dictionary Text Text) := do
  let entries ← (← entries? t n).mapM fun e => do return (← text? t e.1, ← text? t e.2)
  return .ofList entries

/-- A field of a record: its names, the first being its own, and what its node does to the record. -/
structure FieldRule (σ : Type) where
  names : List Text
  read : σ → Node → Option σ

/-- Entries as fields, each given once at most; others are of no effect. -/
def fill {σ : Type} (t : Tree) (fields : List (FieldRule σ)) :
    (given : List (List Text)) → σ → List (Node × Node) → Option σ
  | _, s, [] => some s
  | given, s, (k, v) :: entries => do
    let key ← text? t k
    match fields.find? (·.names.contains key) with
    | none => fill t fields given s entries
    | some f => do
      guard (!given.contains f.names)
      fill t fields (f.names :: given) (← f.read s v) entries

/-- A record with the given fields and defaults. -/
def record? {σ : Type} (t : Tree) (fields : List (FieldRule σ)) (defaults : σ) (n : Node) : Option σ := do
  fill t fields [] defaults (← entries? t n)

def userTemplates? (t : Tree) : Node → Option UserTemplates :=
  record? t
    [{ names := ["click"], read := fun s n => do return { s with click := ← textOrNull? t n } },
      { names := ["input"], read := fun s n => do return { s with input := ← textOrNull? t n } },
      { names := ["assert"], read := fun s n => do return { s with assertions := ← texts? t n } }]
    {}

def userSettings? (t : Tree) : Node → Option UserSettings :=
  record? t
    [{ names := ["framework"]
       read := fun s n => do return { s with framework := ← textOrNull? t n } },
      { names := ["locatorMap"]
        read := fun s n => do return { s with locators := ← texts? t n } },
      { names := ["actions", "actionTemplates"]
        read := fun s n => do return { s with templates := ← userTemplates? t n } }]
    {}

end FromYaml

/-- The settings that a YAML text says, if it says any. -/
def userSettingsOfYaml? (text : Text) : Option UserSettings := do
  let t ← Tree.ofText? text
  FromYaml.userSettings? t t.root

end Cuesheet.Document
