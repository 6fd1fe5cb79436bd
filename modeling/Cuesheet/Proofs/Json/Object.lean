import Mathlib.Data.List.Nodup
import Mathlib.Data.List.Pairwise
import Cuesheet.Json.Decoding
import Cuesheet.Proofs.Outcome

/-!
What the members of an object say, apart from their order.

A record under construction is filled by members in any order. Where that succeeds (`Filled`), every
field has been given at most one member, by any of its names, and what the record holds for the field is
that member's value or else what was there (`Slot.gives`); and it succeeds as long as every field is
given at most one member that can be decoded (`exists_filled`). Neither asks where the members stand.
-/

namespace Cuesheet.Json

deriving instance DecidableEq for Reading, Items, Members

/-- The members with what their names say, where every name says something and the object ends. -/
def Members.toList? : Members → Option (List (Text × Reading))
  | .done => some []
  | .member k v rest =>
    match k.name with
    | .text name => (toList? rest).map ((name, v) :: ·)
    | _ => none
  | .broken => none

/-! ### The values of members -/

/-- The values of the members that go by one of the names, in order. -/
def valuesOf (names : List Text) (ms : List (Text × Reading)) : List Reading :=
  (ms.filter fun m => m.1 ∈ names).map Prod.snd

section Values

variable {names : List Text} {ms ms' : List (Text × Reading)} {name : Text} {v : Reading}

theorem valuesOf_cons_of_mem (h : name ∈ names) :
    valuesOf names ((name, v) :: ms) = v :: valuesOf names ms :=
  congrArg (List.map Prod.snd) (List.filter_cons_of_pos (decide_eq_true h))

theorem valuesOf_cons_of_not_mem (h : name ∉ names) :
    valuesOf names ((name, v) :: ms) = valuesOf names ms :=
  congrArg (List.map Prod.snd) (List.filter_cons_of_neg (by simpa using h))

theorem valuesOf_append : valuesOf names (ms ++ ms') = valuesOf names ms ++ valuesOf names ms' := by
  rw [valuesOf, List.filter_append, List.map_append, valuesOf, valuesOf]

theorem valuesOf_perm (h : ms.Perm ms') : (valuesOf names ms).Perm (valuesOf names ms') :=
  (h.filter _).map _

/-- A member may take another name for one that counts alike. -/
theorem valuesOf_rename {before after : List (Text × Reading)} {name' : Text}
    (h : name ∈ names ↔ name' ∈ names) :
    valuesOf names (before ++ (name, v) :: after) =
      valuesOf names (before ++ (name', v) :: after) := by
  rw [valuesOf_append, valuesOf_append]
  by_cases hname : name ∈ names
  · rw [valuesOf_cons_of_mem hname, valuesOf_cons_of_mem (h.mp hname)]
  · rw [valuesOf_cons_of_not_mem hname, valuesOf_cons_of_not_mem (h.not.mp hname)]

/-- A member by another name may be put in. -/
theorem valuesOf_insert {before after : List (Text × Reading)} (h : name ∉ names) :
    valuesOf names (before ++ (name, v) :: after) = valuesOf names (before ++ after) := by
  rw [valuesOf_append, valuesOf_cons_of_not_mem h, valuesOf_append]

/-- Leaving members out by name does not touch the other names. -/
theorem valuesOf_filter {p : Text → Bool} (h : ∀ name ∈ names, p name = true) :
    valuesOf names (ms.filter fun m => p m.1) = valuesOf names ms := by
  rw [valuesOf, List.filter_filter, valuesOf]
  refine congrArg _ (List.filter_congr fun m _ => ?_)
  by_cases hm : m.1 ∈ names
  · simp [hm, h m.1 hm]
  · simp [hm]

end Values

/-- At most one value is given, and what it is decoded to; otherwise the default holds. -/
def Gives {α : Type} (d : Decoder α) (default : α) (values : List Reading) (a : α) : Prop :=
  values = [] ∧ a = default ∨ ∃ r, values = [r] ∧ d r = .ok a

namespace Gives

variable {α : Type} {d : Decoder α} {default a b : α} {values values' : List Reading}

theorem unique (ha : Gives d default values a) (hb : Gives d default values b) : a = b := by
  rcases ha with ⟨hnone, rfl⟩ | ⟨r, hone, ha⟩
  · rcases hb with ⟨-, rfl⟩ | ⟨r, hone, -⟩
    · rfl
    · exact absurd (hnone.symm.trans hone) (List.cons_ne_nil _ _).symm
  · rcases hb with ⟨hnone, -⟩ | ⟨r', hone', hb⟩
    · exact absurd (hnone.symm.trans hone) (List.cons_ne_nil _ _).symm
    · obtain rfl := List.singleton_inj.mp (hone.symm.trans hone')
      exact Except.ok.inj (ha.symm.trans hb)

theorem perm (h : Gives d default values a) (hp : values.Perm values') :
    Gives d default values' a := by
  rcases h with ⟨rfl, rfl⟩ | ⟨r, rfl, ha⟩
  · exact .inl ⟨List.nil_perm.mp hp, rfl⟩
  · exact .inr ⟨r, List.perm_singleton.mp hp.symm, ha⟩

end Gives

/-! ### Filling a record -/

/-- All the names of a field. -/
def FieldRule.names {σ : Type} (f : FieldRule σ) : List Text := f.name :: f.aliases

namespace Decoder

variable {σ α : Type} {fields : List (FieldRule σ)} {other : σ → Text → Decoder σ}
  {given : List Text} {s s' : σ} {f f' : FieldRule σ} {ms : List (Text × Reading)} {name : Text}
  {v : Reading}

theorem answersTo_iff : f.answersTo name = true ↔ name ∈ f.names := by
  rw [FieldRule.answersTo, Bool.or_eq_true, decide_eq_true_eq, List.contains_iff_mem,
    FieldRule.names, List.mem_cons, eq_comm]

/-- A name that leads to a field is one of its names. -/
theorem mem_of_find? (h : fields.find? (·.answersTo name) = some f) :
    f ∈ fields ∧ name ∈ f.names :=
  ⟨List.mem_of_find?_eq_some h, answersTo_iff.mp (by simpa using List.find?_some h)⟩

theorem not_mem_of_find? (h : fields.find? (·.answersTo name) = none) (hf : f ∈ fields) :
    name ∉ f.names := fun hname => List.find?_eq_none.mp h f hf (answersTo_iff.mpr hname)

/-- No name belongs to two fields. -/
def Distinct (fields : List (FieldRule σ)) : Prop := (fields.flatMap FieldRule.names).Nodup

instance (fields : List (FieldRule σ)) : Decidable (Distinct fields) :=
  inferInstanceAs (Decidable (List.Nodup _))

theorem Distinct.eq (h : Distinct fields) (hf : f ∈ fields) (hf' : f' ∈ fields)
    (hname : name ∈ f.names) (hname' : name ∈ f'.names) : f = f' := by
  by_contra hne
  have hsymm : Std.Symm (Function.onFun List.Disjoint (FieldRule.names : FieldRule σ → List Text)) :=
    ⟨fun _ _ h _ hb ha => h ha hb⟩
  have hapart := (List.nodup_flatMap.mp h).2.forall hf hf' hne
  exact hapart hname hname'

/-- The members take the record from one state to another, given the fields in `given`. -/
inductive Filled (fields : List (FieldRule σ)) (other : σ → Text → Decoder σ) :
    List Text → σ → List (Text × Reading) → σ → Prop
  | done {given : List Text} {s : σ} : Filled fields other given s [] s
  | field {given : List Text} {s s₁ s' : σ} {f : FieldRule σ} {name : Text} {v : Reading}
      {ms : List (Text × Reading)} : fields.find? (·.answersTo name) = some f → f.name ∉ given →
      f.read s v = .ok s₁ → Filled fields other (f.name :: given) s₁ ms s' →
      Filled fields other given s ((name, v) :: ms) s'
  | other {given : List Text} {s s₁ s' : σ} {name : Text} {v : Reading}
      {ms : List (Text × Reading)} : fields.find? (·.answersTo name) = none →
      other s name v = .ok s₁ → Filled fields other given s₁ ms s' →
      Filled fields other given s ((name, v) :: ms) s'

/-- **Members that are decoded fill the record**, and no others do. -/
theorem membersInto_eq_ok_iff : ∀ {members : Members} {given : List Text} {s : σ},
    membersInto fields other given s members = .ok s' ↔
      ∃ ms, members.toList? = some ms ∧ Filled fields other given s ms s'
  | .done, given, s => by
    rw [membersInto, Members.toList?]
    constructor
    · intro h
      exact ⟨[], rfl, Except.ok.inj h ▸ .done⟩
    · rintro ⟨ms, hms, h⟩
      obtain rfl := Option.some.inj hms
      cases h
      rfl
  | .broken, given, s => by
    rw [membersInto, Members.toList?]
    exact ⟨(nomatch ·), fun ⟨_, h, _⟩ => nomatch h⟩
  | .member k v rest, given, s => by
    rw [membersInto, Members.toList?, bind_eq_ok_iff]
    cases hname : k.name with
    | unpaired => simp [keyText, hname]
    | broken => simp [keyText, hname]
    | text name =>
      have hkey : keyText k = .ok name := by rw [keyText, hname]
      simp only [hkey, Except.ok.injEq, exists_eq_left', Option.map_eq_some_iff]
      constructor
      · intro h
        cases hfind : fields.find? (·.answersTo name) with
        | some f =>
          simp only [hfind] at h
          by_cases hgiven : f.name ∈ given
          · rw [if_pos (List.contains_iff_mem.mpr hgiven)] at h
            exact nomatch h
          · rw [if_neg (by simpa using hgiven), bind_eq_ok_iff] at h
            obtain ⟨s₁, hread, hrest⟩ := h
            obtain ⟨ms, hms, hfilled⟩ := membersInto_eq_ok_iff.mp hrest
            exact ⟨_, ⟨ms, hms, rfl⟩, .field hfind hgiven hread hfilled⟩
        | none =>
          simp only [hfind, bind_eq_ok_iff] at h
          obtain ⟨s₁, hother, hrest⟩ := h
          obtain ⟨ms, hms, hfilled⟩ := membersInto_eq_ok_iff.mp hrest
          exact ⟨_, ⟨ms, hms, rfl⟩, .other hfind hother hfilled⟩
      · rintro ⟨_, ⟨ms, hms, rfl⟩, h⟩
        cases h with
        | field hfind hgiven hread hfilled =>
          simp only [hfind]
          rw [if_neg (by simpa using hgiven), bind_eq_ok_iff]
          exact ⟨_, hread, membersInto_eq_ok_iff.mpr ⟨ms, hms, hfilled⟩⟩
        | other hfind hother hfilled =>
          simp only [hfind, bind_eq_ok_iff]
          exact ⟨_, hother, membersInto_eq_ok_iff.mpr ⟨ms, hms, hfilled⟩⟩

/-! ### What a field holds -/

/-- What the record holds for a field, seen through `get`: only the field changes it, and to what its
value is decoded to. -/
structure Slot (fields : List (FieldRule σ)) (other : σ → Text → Decoder σ) (f : FieldRule σ)
    (d : Decoder α) (get : σ → α) : Prop where
  mem : f ∈ fields
  reads : ∀ {s r s'}, f.read s r = .ok s' → d r = .ok (get s')
  keeps : ∀ {f'}, f' ∈ fields → f'.name ≠ f.name → ∀ {s r s'}, f'.read s r = .ok s' → get s' = get s
  passes : ∀ {s name r s'}, other s name r = .ok s' → get s' = get s

namespace Slot

variable {d : Decoder α} {get : σ → α}

/-- A field that has been given is not given again. -/
theorem settled (h : Slot fields other f d get) (hd : Distinct fields)
    (hfilled : Filled fields other given s ms s') (hgiven : f.name ∈ given) :
    valuesOf f.names ms = [] ∧ get s' = get s := by
  induction hfilled with
  | done => exact ⟨rfl, rfl⟩
  | @field given s s₁ s' f' name v ms hfind hfresh hread _ ih =>
    obtain ⟨hmem, hown⟩ := mem_of_find? hfind
    have hne : f'.name ≠ f.name := fun he => hfresh (he ▸ hgiven)
    have hname : name ∉ f.names := fun hname =>
      hne (congrArg FieldRule.name (hd.eq hmem h.mem hown hname))
    obtain ⟨hvalues, hget⟩ := ih (List.mem_cons_of_mem _ hgiven)
    exact ⟨(valuesOf_cons_of_not_mem hname).trans hvalues, hget.trans (h.keeps hmem hne hread)⟩
  | @other given s s₁ s' name v ms hfind hother _ ih =>
    obtain ⟨hvalues, hget⟩ := ih hgiven
    exact ⟨(valuesOf_cons_of_not_mem (not_mem_of_find? hfind h.mem)).trans hvalues, hget.trans (h.passes hother)⟩

/-- A field is given at most one member, and holds that member's value. -/
theorem gives (h : Slot fields other f d get) (hd : Distinct fields)
    (hfilled : Filled fields other given s ms s') (hgiven : f.name ∉ given) :
    Gives d (get s) (valuesOf f.names ms) (get s') := by
  induction hfilled with
  | done => exact .inl ⟨rfl, rfl⟩
  | @field given s s₁ s' f' name v ms hfind _ hread hrest ih =>
    obtain ⟨hmem, hown⟩ := mem_of_find? hfind
    by_cases hname : name ∈ f.names
    · obtain rfl := hd.eq h.mem hmem hname hown
      obtain ⟨hvalues, hget⟩ := h.settled hd hrest (List.mem_cons_self ..)
      rw [valuesOf_cons_of_mem hname, hvalues, hget]
      exact .inr ⟨v, rfl, h.reads hread⟩
    · have hne : f'.name ≠ f.name := by
        intro he
        obtain rfl := hd.eq hmem h.mem (he ▸ List.mem_cons_self ..) (List.mem_cons_self ..)
        exact hname hown
      have hfresh : f.name ∉ f'.name :: given := by
        rw [List.mem_cons, not_or]
        exact ⟨hne.symm, hgiven⟩
      rw [valuesOf_cons_of_not_mem hname, ← h.keeps hmem hne hread]
      exact ih hfresh
  | @other given s s₁ s' name v ms hfind hother _ ih =>
    rw [valuesOf_cons_of_not_mem (not_mem_of_find? hfind h.mem), ← h.passes hother]
    exact ih hgiven

end Slot

/-- Members that give every field at most once fill the record, in whatever order they come. -/
theorem exists_filled (hd : Distinct fields)
    (hfields : ∀ f ∈ fields, valuesOf f.names ms = [] ∨
      f.name ∉ given ∧ ∃ r, valuesOf f.names ms = [r] ∧ ∀ s, ∃ s', f.read s r = .ok s')
    (hother : ∀ m ∈ ms, fields.find? (·.answersTo m.1) = none →
      ∀ s, ∃ s', other s m.1 m.2 = .ok s') (s : σ) :
    ∃ s', Filled fields other given s ms s' := by
  induction ms generalizing given s with
  | nil => exact ⟨s, .done⟩
  | cons m ms ih =>
    obtain ⟨name, v⟩ := m
    obtain ⟨hhead, htail⟩ := List.forall_mem_cons.mp hother
    cases hfind : fields.find? (·.answersTo name) with
    | none =>
      obtain ⟨s₁, hs₁⟩ := hhead hfind s
      have hrest : ∀ f ∈ fields, valuesOf f.names ms = [] ∨
          f.name ∉ given ∧ ∃ r, valuesOf f.names ms = [r] ∧ ∀ s, ∃ s', f.read s r = .ok s' := by
        intro f hf
        have hvalues := hfields f hf
        rwa [valuesOf_cons_of_not_mem (not_mem_of_find? hfind hf)] at hvalues
      obtain ⟨s', hfilled⟩ := ih hrest htail s₁
      exact ⟨s', .other hfind hs₁ hfilled⟩
    | some f =>
      obtain ⟨hf, hname⟩ := mem_of_find? hfind
      have hvalues := hfields f hf
      rw [valuesOf_cons_of_mem hname] at hvalues
      obtain ⟨hgiven, r, hone, hread⟩ := hvalues.resolve_left (List.cons_ne_nil _ _)
      obtain ⟨rfl, hnone⟩ := List.cons.inj hone
      obtain ⟨s₁, hs₁⟩ := hread s
      have hrest : ∀ f' ∈ fields, valuesOf f'.names ms = [] ∨ f'.name ∉ f.name :: given ∧
          ∃ r, valuesOf f'.names ms = [r] ∧ ∀ s, ∃ s', f'.read s r = .ok s' := by
        intro f' hf'
        by_cases hown : f'.name = f.name
        · obtain rfl := hd.eq hf' hf (hown ▸ List.mem_cons_self ..) (List.mem_cons_self ..)
          exact .inl hnone
        · have hskip : name ∉ f'.names := fun hname' =>
            hown (congrArg FieldRule.name (hd.eq hf' hf hname' hname))
          have hvalues := hfields f' hf'
          rw [valuesOf_cons_of_not_mem hskip] at hvalues
          refine hvalues.imp_right fun ⟨hfresh, hvalue⟩ => ⟨?_, hvalue⟩
          rw [List.mem_cons, not_or]
          exact ⟨hown, hfresh⟩
      obtain ⟨s', hfilled⟩ := ih hrest htail s₁
      exact ⟨s', .field hfind hgiven hs₁ hfilled⟩

end Decoder

end Cuesheet.Json
