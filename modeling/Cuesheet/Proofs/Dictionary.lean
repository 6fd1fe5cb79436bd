import Cuesheet.Dictionary

/-!
Dictionaries, rebuilt and compared.

Entries in ascending order rebuild their dictionary when they are inserted one after the other, and a
dictionary is known by what is found under each key (`ext_get?`). Inserting all entries of one
dictionary into another lays the one over the other (`get?_insertAll`), and a dictionary can be cut
down to some of its keys (`get?_filterKeys`).
-/

namespace Cuesheet.Dictionary

variable {κ ν : Type} [Ord κ]

/-- Nothing is found under a key that comes before all others. -/
theorem lookup_of_lt {k : κ} {es : List (κ × ν)} (h : ∀ e ∈ es, compare k e.1 = .lt) :
    lookup k es = none := by
  induction es with
  | nil => rfl
  | cons e es ih =>
    obtain ⟨he, hes⟩ := List.forall_mem_cons.mp h
    rw [lookup, he, if_neg (by decide), ih hes]

/-- What is found under a key is an entry. -/
theorem mem_of_lookup [Std.LawfulEqOrd κ] {k : κ} {v : ν} {es : List (κ × ν)}
    (h : lookup k es = some v) : (k, v) ∈ es := by
  induction es with
  | nil => cases h
  | cons e es ih =>
    rw [lookup] at h
    split at h
    next hk =>
      rw [Std.LawfulEqCmp.eq_of_compare hk, ← Option.some.inj h]
      exact List.mem_cons_self ..
    next => exact List.mem_cons_of_mem e (ih h)

/-- The dictionary cut down to the keys that satisfy `p`. -/
def filterKeys (d : Dictionary κ ν) (p : κ → Bool) : Dictionary κ ν :=
  ⟨d.entries.filter (p ·.1), d.ascending.filter _⟩

theorem get?_filterKeys [Std.LawfulEqOrd κ] (d : Dictionary κ ν) {p : κ → Bool} {k : κ}
    (hk : p k = true) : (d.filterKeys p).get? k = d.get? k := by
  obtain ⟨es, hes⟩ := d
  show lookup k (es.filter (p ·.1)) = lookup k es
  clear hes
  induction es with
  | nil => rfl
  | cons e es ih =>
    by_cases he : p e.1 = true
    · rw [List.filter_cons, if_pos he, lookup, lookup, ih]
    · have hne : compare k e.1 ≠ .eq := fun heq => he (Std.LawfulEqCmp.eq_of_compare heq ▸ hk)
      rw [List.filter_cons, if_neg he, ih, lookup, if_neg hne]

section Order

variable [Std.TransOrd κ]

/-- An entry whose key comes after all others is put at the end. -/
theorem insertEntry_of_lt {k : κ} {v : ν} {es : List (κ × ν)}
    (h : ∀ e ∈ es, compare e.1 k = .lt) : insertEntry k v es = es ++ [(k, v)] := by
  induction es with
  | nil => rfl
  | cons e es ih =>
    obtain ⟨he, hes⟩ := List.forall_mem_cons.mp h
    rw [insertEntry, Std.OrientedCmp.gt_of_lt he, ih hes]
    rfl

variable [Std.LawfulEqOrd κ]

/-- Ascending entries in which the same is found under each key are the same. -/
theorem entries_ext {es fs : List (κ × ν)} (hes : es.Pairwise fun a b => compare a.1 b.1 = .lt)
    (hfs : fs.Pairwise fun a b => compare a.1 b.1 = .lt) (h : ∀ k, lookup k es = lookup k fs) :
    es = fs := by
  induction es generalizing fs with
  | nil =>
    cases fs with
    | nil => rfl
    | cons f fs => simpa [lookup] using h f.1
  | cons e es ih =>
    obtain ⟨he, htail⟩ := List.pairwise_cons.mp hes
    cases fs with
    | nil => simpa [lookup] using h e.1
    | cons f fs =>
      obtain ⟨hf, hrest⟩ := List.pairwise_cons.mp hfs
      -- The lesser of the two first keys would be found on one side only.
      have hkey : compare e.1 f.1 = .eq := by
        cases hc : compare e.1 f.1 with
        | eq => rfl
        | lt =>
          have hnone : lookup e.1 (f :: fs) = none := lookup_of_lt
            (List.forall_mem_cons.mpr ⟨hc, fun x hx => Std.TransCmp.lt_trans hc (hf x hx)⟩)
          have hsame := h e.1
          rw [hnone] at hsame
          simp [lookup] at hsame
        | gt =>
          have hlt := Std.OrientedCmp.lt_of_gt hc
          have hnone : lookup f.1 (e :: es) = none := lookup_of_lt
            (List.forall_mem_cons.mpr ⟨hlt, fun x hx => Std.TransCmp.lt_trans hlt (he x hx)⟩)
          have hsame := h f.1
          rw [hnone] at hsame
          simp [lookup] at hsame
      obtain ⟨k, v⟩ := e
      obtain ⟨j, w⟩ := f
      obtain rfl : k = j := Std.LawfulEqCmp.eq_of_compare hkey
      have hvalue : v = w := by simpa [lookup] using h k
      have hsame : es = fs := by
        refine ih htail hrest fun i => ?_
        by_cases hi : i = k
        · subst hi
          rw [lookup_of_lt he, lookup_of_lt hf]
        · have hne : compare i k ≠ .eq := fun heq => hi (Std.LawfulEqCmp.eq_of_compare heq)
          simpa [lookup, hne] using h i
      rw [hvalue, hsame]

/-- A dictionary is known by what is found under each key. -/
theorem ext_get? {d e : Dictionary κ ν} (h : ∀ k, d.get? k = e.get? k) : d = e :=
  ext (entries_ext d.ascending e.ascending h)

/-- A dictionary with all entries of a list put into it, in order. -/
def insertAll (d : Dictionary κ ν) (es : List (κ × ν)) : Dictionary κ ν :=
  es.foldl (fun d e => d.insert e.1 e.2) d

theorem entries_insert_of_lt {d : Dictionary κ ν} {k : κ} {v : ν}
    (h : ∀ e ∈ d.entries, compare e.1 k = .lt) : (d.insert k v).entries = d.entries ++ [(k, v)] :=
  insertEntry_of_lt h

theorem mem_insertAll {d : Dictionary κ ν} {es : List (κ × ν)} {e : κ × ν}
    (h : e ∈ (d.insertAll es).entries) : e ∈ d.entries ∨ e ∈ es := by
  induction es generalizing d with
  | nil => exact .inl h
  | cons e' es ih =>
    rcases ih (d := d.insert e'.1 e'.2) h with hd | hes
    · rcases mem_insertEntry hd with rfl | hd
      · exact .inr (List.mem_cons_self ..)
      · exact .inl hd
    · exact .inr (List.mem_cons_of_mem e' hes)

/-- What is found after ascending entries have been put into a dictionary: theirs first. -/
theorem get?_insertAll {es : List (κ × ν)} (hes : es.Pairwise fun a b => compare a.1 b.1 = .lt)
    (d : Dictionary κ ν) (k : κ) : (d.insertAll es).get? k = (lookup k es).or (d.get? k) := by
  induction es generalizing d with
  | nil => rfl
  | cons e es ih =>
    obtain ⟨he, hes⟩ := List.pairwise_cons.mp hes
    rw [insertAll, List.foldl_cons, ← insertAll, ih hes]
    by_cases hk : k = e.1
    · subst hk
      simp [lookup, lookup_of_lt he, get?_insert_self]
    · have hne : compare k e.1 ≠ .eq := fun heq => hk (Std.LawfulEqCmp.eq_of_compare heq)
      rw [get?_insert_of_ne d hk, lookup, if_neg hne]

end Order

end Cuesheet.Dictionary
