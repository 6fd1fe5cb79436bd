import Cuesheet.Document.Settings
import Cuesheet.Review

/-!
Reviews as JSON documents.

Places are numbers; as names of members they are written in decimal.
-/

namespace Cuesheet.Document

open Json

def ofAssertionEdit (e : AssertionEdit) : Json :=
  .object (member "kind" (.string e.kind.key) ++ memberOf? "instruction" .string e.instruction)

/-- A dictionary by place, as an object. -/
def ofPlaces {α : Type} (encode : α → Json) (d : Dictionary Nat α) : Json :=
  .object (d.entries.map fun e => (Text.ofNat e.1, encode e.2))

def ofReview (r : Review) : Json :=
  .object (memberOf? "include" (fun indexes => .array (indexes.map .number)) r.selection ++
    omitIf r.selectors.isEmpty (member "selectors" (ofPlaces .string r.selectors)) ++
    omitIf r.assertions.isEmpty (member "assertions" (ofPlaces ofAssertionEdit r.assertions)))

def assertionEdit : Decoder AssertionEdit :=
  Decoder.record "struct AssertionEdit"
    [.of "kind" ["type", "assertType"] (Decoder.variant assertionKinds)
        fun e x => { e with kind := x },
      .of "instruction" ["assertInstruction"] (Decoder.nullable Decoder.text)
        fun e x => { e with instruction := x }]
    {}

def review : Decoder Review :=
  Decoder.record "struct Review"
    [.of "include" [] (Decoder.nullable (Decoder.list (Decoder.natural "usize")))
        fun r x => { r with selection := x },
      .of "selectors" [] (Decoder.dictionary Decoder.keyIndex Decoder.text)
        fun r x => { r with selectors := x },
      .of "assertions" [] (Decoder.dictionary Decoder.keyIndex assertionEdit)
        fun r x => { r with assertions := x }]
    {}

end Cuesheet.Document
