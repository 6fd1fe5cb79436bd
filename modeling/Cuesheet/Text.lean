/-!
Text as the library reads it: a list of characters.

A `String` literal stands for its characters, so phrases are written as they are read. The
functions here cut a fixed lead off a text and glue texts together; what counts as a blank, a word
or a line is told in the modules under `Text`.
-/

namespace Cuesheet

/-- A text is the list of its characters. -/
abbrev Text := List Char

instance : Coe String Text := ⟨String.toList⟩

namespace Text

/-- What follows `lead` at the front of a text, if the text starts with it. -/
def after? : (lead : Text) → Text → Option Text
  | [], t => some t
  | _ :: _, [] => none
  | a :: lead, c :: t => if a = c then after? lead t else none

/-- The texts in order, with `sep` between neighbours. -/
def join (sep : Text) : List Text → Text
  | [] => []
  | [t] => t
  | t :: u :: us => t ++ sep ++ join sep (u :: us)

/-- Whether a code point lies in one of the ranges, both ends included. -/
def inRanges (ranges : List (Nat × Nat)) (n : Nat) : Bool :=
  ranges.any fun r => r.1 ≤ n && n ≤ r.2

/-- The text with every character of `cs` turned into `d`. -/
def replaceChars (cs : List Char) (d : Char) (t : Text) : Text :=
  t.map fun c => if c ∈ cs then d else c

theorem after?_append (lead t : Text) : after? lead (lead ++ t) = some t := by
  induction lead with
  | nil => simp [after?]
  | cons a lead ih => simp [after?, ih]

theorem eq_append_of_after? {lead t rest : Text} (h : after? lead t = some rest) :
    t = lead ++ rest := by
  induction lead generalizing t with
  | nil => simp_all [after?]
  | cons a lead ih =>
    cases t with
    | nil => simp [after?] at h
    | cons c t =>
      by_cases hac : a = c
      · rw [after?, if_pos hac] at h
        simp [hac, ih h]
      · simp [after?, hac] at h

/-- A text starts with `lead` exactly when it is `lead` and what follows. -/
theorem after?_eq_some_iff {lead t rest : Text} :
    after? lead t = some rest ↔ t = lead ++ rest :=
  ⟨eq_append_of_after?, fun h => h ▸ after?_append lead rest⟩

end Text

end Cuesheet
