import Cuesheet.Document.Review
import Cuesheet.Proofs.Json.Record

/-!
Reviews, decoded from what they are written as.

Places are written in decimal, as numbers and as names of members, and come back as long as they fit
in 64 bits.
-/

namespace Cuesheet

/-- Every place the review names fits in 64 bits. -/
def Review.Fits (r : Review) : Prop := ∀ i ∈ r.mentions, i < Nat.pow 2 64

namespace Review

variable {r : Review}

theorem Fits.selection (h : r.Fits) : ∀ indexes ∈ r.selection, ∀ i ∈ indexes, i < Nat.pow 2 64 := by
  intro indexes hindexes i hi
  refine h i (List.mem_append_left _ (List.mem_append_left _ ?_))
  rw [Option.mem_def.mp hindexes]
  exact hi

theorem Fits.selectors (h : r.Fits) : ∀ e ∈ r.selectors.entries, e.1 < Nat.pow 2 64 :=
  fun e he => h e.1 (List.mem_append_left _ (List.mem_append_right _ (List.mem_map_of_mem he)))

theorem Fits.assertions (h : r.Fits) : ∀ e ∈ r.assertions.entries, e.1 < Nat.pow 2 64 :=
  fun e he => h e.1 (List.mem_append_right _ (List.mem_map_of_mem he))

end Review

namespace Document

open Json

theorem assertionEdit_ofAssertionEdit (e : AssertionEdit) :
    assertionEdit (ofAssertionEdit e).reading = .ok e := by
  have hnamed : Decoder.variant assertionKinds (Json.string e.kind.key).reading = .ok e.kind := by
    cases e.kind <;> rfl
  exact Decoder.Fills.record (.append
    (.member rfl (Decoder.read_of hnamed))
    (.memberOf? e.instruction rfl rfl fun _ _ => rfl) (by decide)) rfl

/-- A dictionary by place is what its object says. -/
theorem dictionary_ofPlaces {α : Type} {d : Decoder α} {w : α → Json} (e : Dictionary Nat α)
    (hplaces : ∀ x ∈ e.entries, x.1 < Nat.pow 2 64)
    (hd : ∀ x ∈ e.entries, d (w x.2).reading = .ok x.2) :
    Decoder.dictionary Decoder.keyIndex d (ofPlaces w e).reading = .ok e :=
  Decoder.dictionary_object e (fun x hx => Decoder.keyIndex_ofNat (hplaces x hx)) hd

/-- **A review is what its document says.** -/
theorem review_ofReview {r : Review} (h : r.Fits) : review (ofReview r).reading = .ok r := by
  have hlist : ∀ indexes ∈ r.selection,
      Decoder.nullable (Decoder.list (Decoder.natural "usize"))
        (Json.array (indexes.map .number)).reading = .ok (some indexes) :=
    fun indexes hindexes => congrArg (some <$> ·) (Decoder.list_array fun i hi =>
      Decoder.natural_number "usize" (h.selection indexes hindexes i hi))
  have hselectors := dictionary_ofPlaces (d := Decoder.text) (w := .string) r.selectors
    h.selectors fun _ _ => rfl
  have hassertions := dictionary_ofPlaces r.assertions h.assertions
    fun x _ => assertionEdit_ofAssertionEdit x.2
  exact Decoder.Fills.record (.append (.append
    (.memberOf? r.selection rfl rfl hlist)
    (.unlessEmpty r.selectors rfl rfl hselectors) (by decide))
    (.unlessEmpty r.assertions rfl rfl hassertions) (by decide)) rfl

end Document

end Cuesheet
