import Cuesheet.Json
import Cuesheet.Json.Reading
import Cuesheet.Proofs.Json.Number
import Cuesheet.Proofs.Json.Quotation

/-!
Values, read as they are written.

`Json.reading` is what a value is read as, and a text `ReadsAs` a value when that is what it is read
as, whatever comes after it. Which blanks stand between the tokens makes no difference, so an array or
an object is read as soon as its parts are (`ReadsAs.array`, `ReadsAs.object`). The bound on the steps
is met by a step for each character: every value, item and member takes at least one of each.
-/

namespace Cuesheet.Json

/-! ### What a value is read as -/

/-- The name of a member as its text says it. -/
def Key.of (k : Text) : Key where
  raw := (k.flatMap escaped).takeWhile (· ≠ '"')
  closed := true
  name := .text k

mutual

/-- What a value is read as. -/
def reading : Json → Reading
  | null => .null
  | bool b => .bool b
  | number n => .number (Numeral.ofNat n)
  | string t => .string (.text t)
  | array vs => .array (readingItems vs)
  | object ms => .object (readingMembers ms)

def readingItems : List Json → Items
  | [] => .done
  | v :: vs => .item v.reading (readingItems vs)

def readingMembers : List (Text × Json) → Members
  | [] => .done
  | (k, v) :: ms => .member (.of k) v.reading (readingMembers ms)

end

/-! ### Gaps -/

/-- The text is blank as JSON knows it. -/
def IsGap (t : Text) : Prop := ∀ c ∈ t, c ∈ [' ', '\t', '\n', '\r']

theorem isGap_nil : IsGap [] := by simp [IsGap]

theorem skipBlanks_append {gap : Text} (h : IsGap gap) (t : Text) :
    Reading.skipBlanks (gap ++ t) = Reading.skipBlanks t := by
  refine List.dropWhile_append_of_pos fun c hc => ?_
  simpa [or_assoc] using h c hc

theorem skipBlanks_cons {c : Char} (h : c ∉ [' ', '\t', '\n', '\r']) (t : Text) :
    Reading.skipBlanks (c :: t) = c :: t := by
  refine List.dropWhile_cons_of_neg ?_
  simpa [and_assoc] using h

/-- Blanks and what closes or goes on after a value stop a number. -/
theorem stops_cons {c : Char} (hc : c ∈ [' ', '\t', '\n', '\r', ',', ']', '\x7d']) (t : Text) :
    Stops (c :: t) := by
  have hstops : [' ', '\t', '\n', '\r', ',', ']', '\x7d'].all (fun d =>
      !d.isDigit && d ≠ '.' && d ≠ 'e' && d ≠ 'E') = true := by decide
  have hstop := List.all_eq_true.mp hstops c hc
  rintro d ⟨⟩
  simpa [and_assoc] using hstop

theorem stops_of_isGap {gap : Text} (h : IsGap gap) : Stops gap := by
  cases gap with
  | nil => exact stops_nil
  | cons c gap =>
    exact stops_cons (List.mem_append_left [',', ']', '\x7d'] (h c (List.mem_cons_self ..))) gap

theorem stops_gap {gap : Text} (h : IsGap gap) {c : Char} (hc : c ∈ [',', ']', '\x7d']) (t : Text) :
    Stops (gap ++ c :: t) := by
  cases gap with
  | nil => exact stops_cons (List.mem_append_right [' ', '\t', '\n', '\r'] hc) t
  | cons b gap =>
    exact stops_cons (List.mem_append_left [',', ']', '\x7d'] (h b (List.mem_cons_self ..))) _

/-! ### Texts of values -/

/-- A text is read as a value, whatever comes after it. -/
structure ReadsAs (t : Text) (v : Json) : Prop where
  /-- The text begins with what is neither blank nor the end of an array. -/
  begins : ∃ c u, t = c :: u ∧ c ∉ [' ', '\t', '\n', '\r'] ∧ c ≠ ']'
  value : ∀ fuel rest, t.length ≤ fuel → Stops rest →
    Reading.value fuel (t ++ rest) = (v.reading, some rest)

structure ReadsItems (t : Text) (vs : List Json) : Prop where
  stops : ∀ rest, Stops (t ++ rest)
  items : ∀ fuel rest, t.length ≤ fuel →
    Reading.items fuel (some (t ++ rest)) = (readingItems vs, some rest)

/-- A text is read as members up to the end of their object. -/
structure ReadsMember (t : Text) (ms : List (Text × Json)) : Prop where
  begins : ∃ u, t = '"' :: u
  member : ∀ fuel rest, t.length ≤ fuel →
    Reading.member fuel (t ++ rest) = (readingMembers ms, some rest)

structure ReadsMembers (t : Text) (ms : List (Text × Json)) : Prop where
  stops : ∀ rest, Stops (t ++ rest)
  members : ∀ fuel rest, t.length ≤ fuel →
    Reading.members fuel (some (t ++ rest)) = (readingMembers ms, some rest)

theorem ReadsAs.skipBlanks {t : Text} {v : Json} (h : ReadsAs t v) (rest : Text) :
    Reading.skipBlanks (t ++ rest) = t ++ rest := by
  obtain ⟨c, u, rfl, hc, -⟩ := h.begins
  exact skipBlanks_cons hc _

/-- A bound that leaves room for a character leaves a step. -/
theorem exists_fuel {n fuel : Nat} (h : n + 1 ≤ fuel) : ∃ m, fuel = m + 1 ∧ n ≤ m :=
  ⟨fuel - 1, by omega, by omega⟩

/-! ### Values without parts -/

theorem readsAs_null : ReadsAs "null" null where
  begins := ⟨'n', _, rfl, by decide, by decide⟩
  value fuel rest hfuel _ := by
    obtain ⟨fuel, rfl, -⟩ := exists_fuel hfuel
    rfl

theorem readsAs_bool (b : Bool) : ReadsAs (boolText b) (bool b) where
  begins := by
    cases b with
    | false => exact ⟨'f', _, rfl, by decide, by decide⟩
    | true => exact ⟨'t', _, rfl, by decide, by decide⟩
  value fuel rest hfuel _ := by
    cases b with
    | false => obtain ⟨fuel, rfl, -⟩ := exists_fuel hfuel; rfl
    | true => obtain ⟨fuel, rfl, -⟩ := exists_fuel hfuel; rfl

theorem readsAs_string (t : Text) : ReadsAs (stringText t) (string t) where
  begins := ⟨'"', _, rfl, by decide, by decide⟩
  value fuel rest hfuel _ := by
    obtain ⟨fuel, rfl, -⟩ := exists_fuel hfuel
    have hread := Quotation.read_escaped t rest
    simp only [stringText, List.cons_append, List.append_assoc, Reading.value,
      skipBlanks_cons (c := '"') (by decide)]
    rw [show (("\"" : String) : Text) ++ rest = '"' :: rest from rfl, hread]
    rfl

/-- What begins with a digit is read as a number. -/
theorem value_of_isDigit {c : Char} (hc : c.isDigit = true) (fuel : Nat) (t : Text) :
    Reading.value (fuel + 1) (c :: t) =
      match Numeral.lex? (c :: t) with
      | some (n, rest) => (.number n, some rest)
      | none => (.broken, none) := by
  have hne : ∀ d : Char, d.isDigit = false → c ≠ d := fun _ hd => Text.ne_of_isDigit hc hd
  have hskip : Reading.skipBlanks (c :: t) = c :: t :=
    skipBlanks_cons (by simp [hne ' ' rfl, hne '\t' rfl, hne '\n' rfl, hne '\r' rfl]) t
  conv => lhs; unfold Reading.value
  rw [hskip]
  split
  next h => exact absurd (List.cons.inj h).1 (hne 'n' rfl)
  next h => exact absurd (List.cons.inj h).1 (hne 't' rfl)
  next h => exact absurd (List.cons.inj h).1 (hne 'f' rfl)
  next h => exact absurd (List.cons.inj h).1 (hne '"' rfl)
  next h => exact absurd (List.cons.inj h).1 (hne '[' rfl)
  next h => exact absurd (List.cons.inj h).1 (hne '\x7b' rfl)
  next => rfl

theorem readsAs_number (n : Nat) : ReadsAs (Text.ofNat n) (number n) := by
  obtain ⟨c, u, hu⟩ := List.exists_cons_of_ne_nil (Text.ofNat_ne_nil n)
  have hc : c.isDigit = true := Text.isDigit_of_mem_ofNat (n := n) c (by rw [hu]; simp)
  refine ⟨⟨c, u, hu, ?_, ?_⟩, fun fuel rest hfuel hrest => ?_⟩
  · intro hblank
    have hblanks : [' ', '\t', '\n', '\r'].any Char.isDigit = false := by decide
    rw [Text.forall_of_any_eq_false hblanks c hblank] at hc
    exact Bool.noConfusion hc
  · rintro rfl
    exact absurd hc (by decide)
  · rw [hu] at hfuel
    obtain ⟨fuel, rfl, -⟩ := exists_fuel hfuel
    have hlex := Numeral.lex?_ofNat n hrest
    rw [hu, List.cons_append] at hlex
    rw [hu, List.cons_append, value_of_isDigit hc, hlex]
    rfl

/-! ### Arrays -/

variable {gap t u : Text} {v : Json} {vs : List Json}

theorem readsAs_array_nil : ReadsAs "[]" (array []) where
  begins := ⟨'[', _, rfl, by decide, by decide⟩
  value fuel rest hfuel _ := by
    obtain ⟨fuel, rfl, -⟩ := exists_fuel hfuel
    rfl

/-- After the bracket of an array comes its first item. -/
theorem ReadsAs.array (hgap : IsGap gap) (ht : ReadsAs t v) (hu : ReadsItems u vs) :
    ReadsAs ('[' :: (gap ++ (t ++ u))) (array (v :: vs)) where
  begins := ⟨'[', _, rfl, by decide, by decide⟩
  value fuel rest hfuel hrest := by
    obtain ⟨fuel, rfl, hle⟩ := exists_fuel hfuel
    simp only [List.length_append] at hle
    have hfirst := ht.value fuel (u ++ rest) (by omega) (hu.stops rest)
    have hitems := hu.items fuel rest (by omega)
    have hskip : Reading.skipBlanks (gap ++ (t ++ (u ++ rest))) = t ++ (u ++ rest) := by
      rw [skipBlanks_append hgap, ht.skipBlanks]
    obtain ⟨c, t, rfl, -, hc⟩ := ht.begins
    simp only [List.cons_append, List.append_assoc, Reading.value,
      skipBlanks_cons (c := '[') (by decide)] at hskip hfirst ⊢
    rw [hskip]
    split
    next h => exact absurd (List.cons.inj h).1 hc
    next => rw [hfirst]; simp only [hitems]; rfl

theorem readsItems_nil (hgap : IsGap gap) : ReadsItems (gap ++ "]") [] where
  stops rest := by
    rw [List.append_assoc]
    exact stops_gap hgap (by decide) rest
  items fuel rest hfuel := by
    rw [List.length_append] at hfuel
    obtain ⟨fuel, rfl, -⟩ := exists_fuel hfuel
    rw [List.append_assoc, Reading.items, skipBlanks_append hgap]
    rfl

/-- After a comma comes one more item. -/
theorem ReadsItems.cons (hgap : IsGap gap) (ht : ReadsAs t v) (hu : ReadsItems u vs) :
    ReadsItems (',' :: (gap ++ (t ++ u))) (v :: vs) where
  stops rest := stops_gap isGap_nil (by decide) _
  items fuel rest hfuel := by
    obtain ⟨fuel, rfl, hle⟩ := exists_fuel hfuel
    simp only [List.length_append] at hle
    have hnext := ht.value fuel (u ++ rest) (by omega) (hu.stops rest)
    have hitems := hu.items fuel rest (by omega)
    have hskip : Reading.skipBlanks (gap ++ (t ++ (u ++ rest))) = t ++ (u ++ rest) := by
      rw [skipBlanks_append hgap, ht.skipBlanks]
    obtain ⟨c, t, rfl, -, hc⟩ := ht.begins
    simp only [List.cons_append, List.append_assoc, Reading.items,
      skipBlanks_cons (c := ',') (by decide)] at hskip hnext ⊢
    rw [hskip]
    split
    next h => exact absurd (List.cons.inj h).1 hc
    next => rw [hnext]; simp only [hitems]; rfl

/-! ### Objects -/

variable {k : Text} {ms : List (Text × Json)}

theorem readsAs_object_nil : ReadsAs "\x7b\x7d" (object []) where
  begins := ⟨'\x7b', _, rfl, by decide, by decide⟩
  value fuel rest hfuel _ := by
    obtain ⟨fuel, rfl, -⟩ := exists_fuel hfuel
    rfl

/-- After the brace of an object comes its first member. -/
theorem ReadsMember.object (hgap : IsGap gap) (ht : ReadsMember t ms) :
    ReadsAs ('\x7b' :: (gap ++ t)) (object ms) where
  begins := ⟨'\x7b', _, rfl, by decide, by decide⟩
  value fuel rest hfuel hrest := by
    obtain ⟨fuel, rfl, hle⟩ := exists_fuel hfuel
    rw [List.length_append] at hle
    have hmember := ht.member fuel rest (by omega)
    obtain ⟨t, rfl⟩ := ht.begins
    simp only [List.cons_append, List.append_assoc, Reading.value,
      skipBlanks_cons (c := '\x7b') (by decide), skipBlanks_append hgap,
      skipBlanks_cons (c := '"') (by decide)] at hmember ⊢
    split
    next h => exact absurd (List.cons.inj h).1 (by decide)
    next => rw [hmember]; rfl

theorem readsMembers_nil (hgap : IsGap gap) : ReadsMembers (gap ++ "\x7d") [] where
  stops rest := by
    rw [List.append_assoc]
    exact stops_gap hgap (by decide) rest
  members fuel rest hfuel := by
    rw [List.length_append] at hfuel
    obtain ⟨fuel, rfl, -⟩ := exists_fuel hfuel
    rw [List.append_assoc, Reading.members, skipBlanks_append hgap]
    rfl

theorem member_gap (hgap : IsGap gap) (fuel : Nat) (t : Text) :
    Reading.member fuel (gap ++ t) = Reading.member fuel t := by
  cases fuel with
  | zero => rfl
  | succ fuel => rw [Reading.member, Reading.member, skipBlanks_append hgap]

/-- After a comma comes one more member. -/
theorem ReadsMember.cons (hgap : IsGap gap) (ht : ReadsMember t ms) :
    ReadsMembers (',' :: (gap ++ t)) ms where
  stops rest := stops_gap isGap_nil (by decide) _
  members fuel rest hfuel := by
    obtain ⟨fuel, rfl, hle⟩ := exists_fuel hfuel
    rw [List.length_append] at hle
    rw [List.cons_append, List.append_assoc, Reading.members, skipBlanks_cons (by decide)]
    exact (member_gap hgap fuel _).trans (ht.member fuel rest (by omega))

/-- A name is read up to its closing quote. -/
theorem key_escaped (k rest : Text) :
    Reading.key (k.flatMap escaped ++ '"' :: rest) = (.of k, some rest) := by
  have hraw : (k.flatMap escaped ++ '"' :: rest).takeWhile (· ≠ '"') =
      (k.flatMap escaped).takeWhile (· ≠ '"') := by
    rw [List.takeWhile_append]
    split
    next h =>
      rw [List.takeWhile_cons_of_neg (by simp), List.append_nil]
      exact ((List.takeWhile_prefix _).eq_of_length h).symm
    next => rfl
  have hclosed : ((k.flatMap escaped).takeWhile (· ≠ '"')).length <
      (k.flatMap escaped ++ '"' :: rest).length := by
    have hle := (List.takeWhile_prefix (l := k.flatMap escaped) (· ≠ '"')).length_le
    simp only [List.length_append, List.length_cons]
    omega
  simp only [Reading.key, Quotation.read_escaped, hraw, Key.of, decide_eq_true hclosed]

/-- A member is its name, a colon and its value. -/
theorem readsMember_cons (hgap : IsGap gap) (ht : ReadsAs t v) (hu : ReadsMembers u ms) :
    ReadsMember (stringText k ++ ':' :: (gap ++ (t ++ u))) ((k, v) :: ms) where
  begins := ⟨_, rfl⟩
  member fuel rest hfuel := by
    have hlength : (stringText k).length = (k.flatMap escaped).length + 1 + 1 := by
      simp [stringText]
    simp only [List.length_append, List.length_cons, hlength] at hfuel
    have hlarge : t.length + u.length + 1 ≤ fuel := by omega
    obtain ⟨fuel, rfl, hle⟩ := exists_fuel hlarge
    have hvalue := ht.value fuel (u ++ rest) (by omega) (hu.stops rest)
    have hmembers := hu.members fuel rest (by omega)
    have hgapped : Reading.value fuel (gap ++ (t ++ (u ++ rest))) = (v.reading, some (u ++ rest)) := by
      cases fuel with
      | zero =>
        obtain ⟨c, t, rfl, -⟩ := ht.begins
        simp at hle
      | succ fuel =>
        rw [Reading.value, skipBlanks_append hgap]
        rwa [Reading.value] at hvalue
    have hkey := key_escaped k (':' :: (gap ++ (t ++ (u ++ rest))))
    simp only [stringText, List.cons_append, List.append_assoc, Reading.member,
      skipBlanks_cons (c := '"') (by decide)]
    rw [show (("\"" : String) : Text) ++ ':' :: (gap ++ (t ++ (u ++ rest))) =
      '"' :: ':' :: (gap ++ (t ++ (u ++ rest))) from rfl, hkey]
    simp only [Option.map_some, skipBlanks_cons (c := ':') (by decide), hgapped, hmembers]
    rfl

end Cuesheet.Json
