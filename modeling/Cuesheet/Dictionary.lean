/-!
Dictionaries with ordered keys.

A `Dictionary` holds its entries in ascending order of their keys, each key once, so two dictionaries
with the same contents are equal and listing one needs no sorting. `insert` puts a value under a key
and takes the place of what was there; `get?` looks a key up, and the two agree
(`get?_insert_self`, `get?_insert_of_ne`).
-/

namespace Cuesheet

/-- A finite map, kept in ascending order of its keys. -/
structure Dictionary (κ ν : Type) [Ord κ] where
  entries : List (κ × ν)
  ascending : entries.Pairwise fun a b => compare a.1 b.1 = .lt

namespace Dictionary

variable {κ ν : Type} [Ord κ]

def empty : Dictionary κ ν := ⟨[], .nil⟩

instance : EmptyCollection (Dictionary κ ν) := ⟨empty⟩
instance : Inhabited (Dictionary κ ν) := ⟨empty⟩

/-- Dictionaries with the same entries are equal. -/
theorem ext {d e : Dictionary κ ν} (h : d.entries = e.entries) : d = e := by
  cases d; cases e; simp_all

instance [DecidableEq κ] [DecidableEq ν] : DecidableEq (Dictionary κ ν) := fun d e =>
  decidable_of_iff (d.entries = e.entries) ⟨ext, fun h => h ▸ rfl⟩

def isEmpty (d : Dictionary κ ν) : Bool := d.entries.isEmpty

/-- The keys, in ascending order. -/
def keys (d : Dictionary κ ν) : List κ := d.entries.map (·.1)

/-- The value under a key in a list of entries. -/
def lookup (k : κ) : List (κ × ν) → Option ν
  | [] => none
  | (k', v) :: es => if compare k k' = .eq then some v else lookup k es

def get? (d : Dictionary κ ν) (k : κ) : Option ν := lookup k d.entries

/-- A list of entries with a value put under a key. -/
def insertEntry (k : κ) (v : ν) : List (κ × ν) → List (κ × ν)
  | [] => [(k, v)]
  | (k', v') :: es =>
    match compare k k' with
    | .lt => (k, v) :: (k', v') :: es
    | .eq => (k, v) :: es
    | .gt => (k', v') :: insertEntry k v es

theorem mem_insertEntry {k : κ} {v : ν} {es : List (κ × ν)} {e : κ × ν}
    (h : e ∈ insertEntry k v es) : e = (k, v) ∨ e ∈ es := by
  induction es with
  | nil => simp_all [insertEntry]
  | cons head es ih =>
    rw [insertEntry] at h
    split at h
    · simpa using h
    · rcases List.mem_cons.1 h with rfl | h
      · exact .inl rfl
      · exact .inr (List.mem_cons_of_mem _ h)
    · rcases List.mem_cons.1 h with rfl | h
      · exact .inr (List.mem_cons_self ..)
      · exact (ih h).imp_right (List.mem_cons_of_mem _)

theorem lookup_insertEntry_self [Std.LawfulEqOrd κ] (k : κ) (v : ν) (es : List (κ × ν)) :
    lookup k (insertEntry k v es) = some v := by
  induction es with
  | nil => simp [insertEntry, lookup]
  | cons head es ih =>
    rw [insertEntry]
    split
    · simp [lookup]
    · simp [lookup]
    · rename_i hk
      simp [lookup, hk, ih]

theorem lookup_insertEntry_of_ne [Std.LawfulEqOrd κ] {k j : κ} (hjk : j ≠ k) (v : ν) (es : List (κ × ν)) :
    lookup j (insertEntry k v es) = lookup j es := by
  have hne : compare j k ≠ .eq := fun h => hjk (Std.LawfulEqCmp.eq_of_compare h)
  induction es with
  | nil => simp [insertEntry, lookup, hne]
  | cons head es ih =>
    rw [insertEntry]
    split
    · simp [lookup, hne]
    · rename_i hk
      rw [lookup, lookup, if_neg hne, ← Std.LawfulEqCmp.eq_of_compare hk, if_neg hne]
    · rw [lookup, lookup, ih]

section Order

variable [Std.TransOrd κ] [Std.LawfulEqOrd κ]

theorem ascending_insertEntry (k : κ) (v : ν) {es : List (κ × ν)}
    (h : es.Pairwise fun a b => compare a.1 b.1 = .lt) :
    (insertEntry k v es).Pairwise fun a b => compare a.1 b.1 = .lt := by
  induction es with
  | nil => simp [insertEntry]
  | cons head es ih =>
    obtain ⟨k', v'⟩ := head
    obtain ⟨hhead, htail⟩ := List.pairwise_cons.1 h
    rw [insertEntry]
    split
    · rename_i hk
      refine List.pairwise_cons.2 ⟨fun e he => ?_, h⟩
      rcases List.mem_cons.1 he with rfl | he
      · exact hk
      · exact Std.TransCmp.lt_trans hk (hhead e he)
    · rename_i hk
      obtain rfl := Std.LawfulEqCmp.eq_of_compare hk
      exact List.pairwise_cons.2 ⟨hhead, htail⟩
    · rename_i hk
      refine List.pairwise_cons.2 ⟨fun e he => ?_, ih htail⟩
      rcases mem_insertEntry he with rfl | he
      · exact Std.OrientedCmp.lt_of_gt hk
      · exact hhead e he

def insert (d : Dictionary κ ν) (k : κ) (v : ν) : Dictionary κ ν :=
  ⟨insertEntry k v d.entries, ascending_insertEntry k v d.ascending⟩

/-- The dictionary of a list of entries; of entries with one key the last counts. -/
def ofList (es : List (κ × ν)) : Dictionary κ ν :=
  es.foldl (fun d e => d.insert e.1 e.2) ∅

theorem get?_insert_self (d : Dictionary κ ν) (k : κ) (v : ν) :
    (d.insert k v).get? k = some v :=
  lookup_insertEntry_self k v d.entries

theorem get?_insert_of_ne (d : Dictionary κ ν) {k j : κ} (hjk : j ≠ k) (v : ν) :
    (d.insert k v).get? j = d.get? j :=
  lookup_insertEntry_of_ne hjk v d.entries

end Order

end Dictionary

end Cuesheet
