import Cuesheet.Json.Decoding
import Cuesheet.Proofs.Json.Reading

/-!
Both layouts of a value are read as the value.

The compact and the spread text differ only in their gaps. Each is an opening, the first part, the
other parts after commas, and an ending, so one lemma for arrays and one for objects serve both
(`readsAs_arrayText`, `readsAs_objectText`), by induction on the value.
-/

namespace Cuesheet.Json

/-- What holds of the values without parts, and of an array or object as soon as it holds of its
parts, holds of every value. -/
@[elab_as_elim]
theorem induction {P : Json → Prop} (null : P .null) (bool : ∀ b, P (.bool b))
    (number : ∀ n, P (.number n)) (string : ∀ t, P (.string t))
    (array : ∀ vs, (∀ v ∈ vs, P v) → P (.array vs))
    (object : ∀ ms : List (Text × Json), (∀ m ∈ ms, P m.2) → P (.object ms)) : ∀ v, P v
  | .null => null
  | .bool b => bool b
  | .number n => number n
  | .string t => string t
  | .array vs => array vs fun v _ => induction null bool number string array object v
  | .object ms => object ms fun m _ => induction null bool number string array object m.2
termination_by v => sizeOf v
decreasing_by
  · have hlt := List.sizeOf_lt_of_mem ‹v ∈ vs›
    rw [Json.array.sizeOf_spec]
    omega
  · have hlt := List.sizeOf_lt_of_mem ‹m ∈ ms›
    rw [Json.object.sizeOf_spec]
    rw [Prod.mk.sizeOf_spec] at hlt
    omega

/-! ### Parts with commas between -/

section Parts

variable {gap close : Text} {write : Json → Text}

/-- The items after the first one, each after a comma. -/
def furtherItems (gap : Text) (write : Json → Text) (vs : List Json) : Text :=
  vs.flatMap fun v => ',' :: (gap ++ write v)

/-- A member with a gap before its value. -/
def memberText (gap : Text) (write : Json → Text) (m : Text × Json) : Text :=
  stringText m.1 ++ ':' :: (gap ++ write m.2)

def furtherMembers (gap inner : Text) (write : Json → Text) (ms : List (Text × Json)) : Text :=
  ms.flatMap fun m => ',' :: (gap ++ memberText inner write m)

theorem readsItems_further (hgap : IsGap gap) (hclose : IsGap close) {vs : List Json}
    (h : ∀ v ∈ vs, ReadsAs (write v) v) :
    ReadsItems (furtherItems gap write vs ++ (close ++ "]")) vs := by
  induction vs with
  | nil => exact readsItems_nil hclose
  | cons v vs ih =>
    obtain ⟨hv, hvs⟩ := List.forall_mem_cons.mp h
    have hcons := ReadsItems.cons hgap hv (ih hvs)
    rw [furtherItems] at hcons ⊢
    simpa only [List.flatMap_cons, List.cons_append, List.append_assoc] using hcons

/-- An array is read as soon as its items are, whatever the gaps. -/
theorem readsAs_arrayText (hgap : IsGap gap) (hclose : IsGap close) {v : Json} {vs : List Json}
    (h : ∀ w ∈ v :: vs, ReadsAs (write w) w) :
    ReadsAs ("[" ++ (gap ++ write v ++ furtherItems gap write vs) ++ close ++ "]")
      (array (v :: vs)) := by
  obtain ⟨hv, hvs⟩ := List.forall_mem_cons.mp h
  have harray := ReadsAs.array hgap hv (readsItems_further hgap hclose hvs)
  simp only [List.append_assoc]
  exact harray

variable {inner : Text}

theorem readsMembers_further (hgap : IsGap gap) (hinner : IsGap inner) (hclose : IsGap close)
    {ms : List (Text × Json)} (h : ∀ m ∈ ms, ReadsAs (write m.2) m.2) :
    ReadsMembers (furtherMembers gap inner write ms ++ (close ++ "\x7d")) ms := by
  induction ms with
  | nil => exact readsMembers_nil hclose
  | cons m ms ih =>
    obtain ⟨hm, hms⟩ := List.forall_mem_cons.mp h
    have hcons := (readsMember_cons (k := m.1) hinner hm (ih hms)).cons hgap
    rw [furtherMembers] at hcons ⊢
    simpa only [List.flatMap_cons, memberText, List.cons_append, List.append_assoc] using hcons

/-- An object is read as soon as the values of its members are, whatever the gaps. -/
theorem readsAs_objectText (hgap : IsGap gap) (hinner : IsGap inner) (hclose : IsGap close)
    {m : Text × Json} {ms : List (Text × Json)} (h : ∀ n ∈ m :: ms, ReadsAs (write n.2) n.2) :
    ReadsAs ("\x7b" ++ (gap ++ memberText inner write m ++ furtherMembers gap inner write ms) ++
      close ++ "\x7d") (object (m :: ms)) := by
  obtain ⟨hm, hms⟩ := List.forall_mem_cons.mp h
  have hobject := (readsMember_cons (k := m.1) hinner hm
    (readsMembers_further hgap hinner hclose hms)).object hgap
  simp only [List.cons_append, List.append_assoc, memberText] at hobject ⊢
  exact hobject

end Parts

/-! ### The compact text -/

theorem compactItems_cons (v : Json) (vs : List Json) :
    compactItems (v :: vs) = v.compact ++ furtherItems [] compact vs := by
  induction vs generalizing v with
  | nil => simp [compactItems, furtherItems]
  | cons w vs ih => simp [compactItems, ih, furtherItems]

theorem compactMembers_cons (m : Text × Json) (ms : List (Text × Json)) :
    compactMembers (m :: ms) = memberText [] compact m ++ furtherMembers [] [] compact ms := by
  induction ms generalizing m with
  | nil => simp [compactMembers, furtherMembers, memberText]
  | cons n ms ih => simp [compactMembers, ih, furtherMembers, memberText]

/-- **The compact text of a value is read as the value.** -/
theorem readsAs_compact (v : Json) : ReadsAs v.compact v := by
  induction v using induction with
  | null => exact readsAs_null
  | bool b => exact readsAs_bool b
  | number n => exact readsAs_number n
  | string t => exact readsAs_string t
  | array vs ih =>
    cases vs with
    | nil => exact readsAs_array_nil
    | cons v vs =>
      have harray := readsAs_arrayText isGap_nil isGap_nil ih
      simpa only [compact, compactItems_cons, List.nil_append, List.append_nil] using harray
  | object ms ih =>
    cases ms with
    | nil => exact readsAs_object_nil
    | cons m ms =>
      have hobject := readsAs_objectText isGap_nil isGap_nil isGap_nil ih
      simpa only [compact, compactMembers_cons, List.nil_append, List.append_nil] using hobject

/-! ### The spread text -/

theorem isGap_space : IsGap " " := by simp [IsGap]

theorem isGap_newline (level : Nat) : IsGap (newline level) := by
  intro c hc
  rcases List.mem_cons.mp hc with rfl | hc
  · decide
  · obtain rfl := List.eq_of_mem_replicate hc
    decide

theorem spreadItems_cons (level : Nat) (v : Json) (vs : List Json) :
    spreadItems level (v :: vs) =
      newline level ++ v.spreadAt level ++ furtherItems (newline level) (spreadAt level) vs := by
  induction vs generalizing v with
  | nil => simp [spreadItems, furtherItems]
  | cons w vs ih => simp [spreadItems, ih, furtherItems]

theorem spreadMembers_cons (level : Nat) (m : Text × Json) (ms : List (Text × Json)) :
    spreadMembers level (m :: ms) =
      newline level ++ memberText " " (spreadAt level) m ++
        furtherMembers (newline level) " " (spreadAt level) ms := by
  induction ms generalizing m with
  | nil => simp [spreadMembers, furtherMembers, memberText]
  | cons n ms ih => simp [spreadMembers, ih, furtherMembers, memberText]

/-- The spread text of a value is read as the value, at every level. -/
theorem readsAs_spreadAt (v : Json) (level : Nat) : ReadsAs (v.spreadAt level) v := by
  induction v using induction generalizing level with
  | null => exact readsAs_null
  | bool b => exact readsAs_bool b
  | number n => exact readsAs_number n
  | string t => exact readsAs_string t
  | array vs ih =>
    cases vs with
    | nil => exact readsAs_array_nil
    | cons v vs =>
      have harray := readsAs_arrayText (isGap_newline (level + 1)) (isGap_newline level)
        fun w hw => ih w hw (level + 1)
      simpa only [spreadAt, spreadItems_cons] using harray
  | object ms ih =>
    cases ms with
    | nil => exact readsAs_object_nil
    | cons m ms =>
      have hobject := readsAs_objectText (isGap_newline (level + 1)) isGap_space
        (isGap_newline level) fun n hn => ih n hn (level + 1)
      simpa only [spreadAt, spreadMembers_cons] using hobject

/-! ### Decoding a text -/

theorem ofText_of_readsAs {t close : Text} {v : Json} (h : ReadsAs t v) (hclose : IsGap close) :
    Reading.ofText (t ++ close) = (v.reading, true) := by
  have hvalue := h.value (2 * (t ++ close).length + 2) close
    (by simp only [List.length_append]; omega) (stops_of_isGap hclose)
  have hskip : Reading.skipBlanks close = [] := by
    rw [← List.append_nil close, skipBlanks_append hclose]
    rfl
  simp only [Reading.ofText, hvalue, Option.map_some, hskip]
  rfl

/-- What a text of a value decodes to is what the value's reading decodes to. -/
theorem decode_of_readsAs {α : Type} (d : Decoder α) {t close : Text} {v : Json} (h : ReadsAs t v)
    (hclose : IsGap close) : decode d (t ++ close) = d v.reading := by
  simp only [decode, ofText_of_readsAs h hclose, if_true]
  exact bind_pure (d v.reading)

end Cuesheet.Json
