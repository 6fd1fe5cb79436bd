import Cuesheet.Instruction.Literal

/-!
Cutting an instruction at a separating word.

A separator is a word between two runs of blanks, which belong to it. Separators are found from the
left and do not overlap, so of `and and` between parts only the first is one. A separator that starts
inside a quoted literal does not cut.
-/

namespace Cuesheet.Instruction

/-- How many leading characters of a text satisfy `p`. -/
def countWhile (p : Char → Bool) (t : Text) : Nat := (t.takeWhile p).length

/-- The length of the separator at the front of a text, zero where there is none. -/
def separatorLength (word : Text) (t : Text) : Nat :=
  let before := countWhile Text.isBlank t
  match Text.after? word (t.drop before) with
  | none => 0
  | some rest =>
    let after := countWhile Text.isBlank rest
    if before = 0 || after = 0 then 0 else before + word.length + after

/-- The separators of a text at position `i`, after `skip` more characters that belong to the one
before. -/
def separatorsFrom (word : Text) : (i skip : Nat) → Text → List Span
  | _, _, [] => []
  | i, skip + 1, _ :: t => separatorsFrom word (i + 1) skip t
  | i, 0, c :: t =>
    match separatorLength word (c :: t) with
    | 0 => separatorsFrom word (i + 1) 0 t
    | n + 1 => ⟨i, i + (n + 1)⟩ :: separatorsFrom word (i + 1) n t

/-- The separators of a text, in order. -/
def separators (word : Text) (t : Text) : List Span := separatorsFrom word 0 0 t

/-- The separators that start outside every quoted literal. -/
def openSeparators (word : Text) (t : Text) : List Span :=
  let quoted := literals t
  (separators word t).filter fun s => !quoted.any (·.covers s.start)

/-- The pieces of a text between the given spans, from position `i` on. -/
def piecesFrom (t : Text) (i : Nat) : List Span → List Text
  | [] => [t.drop i]
  | s :: spans => (t.take s.start).drop i :: piecesFrom t s.stop spans

/-- The parts of a text between the separators that cut it, if any does. -/
def splitAt? (word : Text) (t : Text) : Option (List Text) :=
  match openSeparators word t with
  | [] => none
  | spans => some (piecesFrom t 0 spans)

end Cuesheet.Instruction
