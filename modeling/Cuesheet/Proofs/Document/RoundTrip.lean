import Cuesheet.Script
import Cuesheet.Proofs.Document.Recording
import Cuesheet.Proofs.Document.Review
import Cuesheet.Proofs.Document.Settings
import Cuesheet.Proofs.Json.Layout

/-!
Documents, written and read again.

Recordings, a user's settings and reviews come back from either layout of their documents as they were
(`decode_documents`), and settled settings from the text in which they are printed (`decode_settled`):
a user who keeps that text as settings gets the same scripts.
-/

namespace Cuesheet.Document

open Json

/-- A value in a layout of its document is what the layout's text decodes to. -/
theorem decode_layout {α : Type} {d : Decoder α} {v : Json} {a : α} (h : d v.reading = .ok a) :
    ∀ layout ∈ [Json.compact, Json.spread], decode d (layout v) = .ok a := by
  have hall : ∀ layout ∈ [Json.compact, Json.spread], ReadsAs (layout v) v := by
    simpa using ⟨readsAs_compact v, readsAs_spreadAt v 0⟩
  intro layout hlayout
  have hdecode := decode_of_readsAs d (hall layout hlayout) isGap_nil
  rwa [List.append_nil, h] at hdecode

/-- **Documents read back.** In either layout, recordings and reviews whose numbers fit in 64 bits and
all settings of users decode to themselves, and the bare array of a recording's actions decodes to
what the recording's document does. -/
theorem decode_documents (r : Recording) (hr : r.Fits) (u : UserSettings) (v : Review) (hv : v.Fits) :
    ∀ layout ∈ [Json.compact, Json.spread],
      decode recording (layout (ofRecording r)) = .ok r ∧
      decode recording (layout (.array (r.actions.map ofAction))) =
        decode recording (layout (ofRecording r)) ∧
      decode userSettings (layout (ofUserSettings u)) = .ok u ∧
      decode review (layout (ofReview v)) = .ok v := by
  intro layout hlayout
  have hrecording := decode_layout (recording_ofRecording hr) layout hlayout
  have harray := decode_layout (recording_array hr) layout hlayout
  exact ⟨hrecording, harray.trans hrecording.symm,
    decode_layout (userSettings_ofUserSettings u) layout hlayout,
    decode_layout (review_ofReview hv) layout hlayout⟩

/-- The recording of an entered value, and a review that renames its place. -/
theorem decode_documents_entered :
    let r : Recording := ⟨[{ Action.input "#q" "tea\n" with timestamp := some 1700000000000 }]⟩
    let v : Review := (({} : Review).keepOnly [0]).rename 0 "#query"
    decode recording (ofRecording r).compact = .ok r ∧
      decode review (ofReview v).compact = .ok v := by
  intro r v
  have hr : r.Fits := by simp [r, Recording.Fits, Action.Fits, Action.input]
  have hv : v.Fits := by
    have hmentions : v.mentions = [0, 0] := rfl
    rw [Review.Fits, hmentions]
    decide
  obtain ⟨hrecording, -, -, hreview⟩ := decode_documents r hr {} v hv Json.compact (by simp)
  exact ⟨hrecording, hreview⟩

/-- **Settled settings are a fixed point of printing and reading.** Whatever a user has set, the text
in which the settings that come of it are printed is accepted as a user's settings; they come to the
same settings, and where the user had set anything, to the same scripts. -/
theorem decode_settled (user : Option UserSettings) :
    ∃ again, decode userSettings ((ofSettings (.ofUser user)).spread ++ "\n") = .ok again ∧
      again.resolve = .ofUser user ∧
      ∀ u, user = some u → ∀ actions,
        Script.generate (some again) actions = Script.generate (some u) actions := by
  have hnewline : IsGap "\n" := by simp [IsGap]
  have hdecode := decode_of_readsAs userSettings
    (readsAs_spreadAt (ofSettings (.ofUser user)) 0) hnewline
  rw [userSettings_ofSettings] at hdecode
  refine ⟨(Settings.ofUser user).asUser, hdecode, Settings.resolve_asUser user, ?_⟩
  rintro u rfl actions
  have hresolve : (Settings.ofUser (some u)).asUser.resolve = u.resolve :=
    Settings.resolve_asUser (some u)
  simp only [Script.generate, hresolve]

/-- A user who names a framework and one template. -/
theorem decode_settled_click :
    let u : UserSettings :=
      { framework := some " Cypress ", templates := { click := some "tap(\x7blocator\x7d)" } }
    ∃ again, decode userSettings ((ofSettings u.resolve).spread ++ "\n") = .ok again ∧
      ∀ actions, Script.generate (some again) actions = Script.generate (some u) actions := by
  intro u
  obtain ⟨again, hread, -, hsame⟩ := decode_settled (some u)
  exact ⟨again, hread, hsame u rfl⟩

end Cuesheet.Document
