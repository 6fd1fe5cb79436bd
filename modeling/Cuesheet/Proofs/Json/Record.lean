import Cuesheet.Json.Decoding
import Cuesheet.Proofs.Dictionary
import Cuesheet.Proofs.Json.Reading

/-!
Decoders on what was written.

Each decoder gets back what its part of a document was written from: numbers, lists, dictionaries and,
member by member, records. That some members fill a part of a record is said in front of any other
members and for any fields given before (`Fills`), so it composes: members that fill disjoint fields,
one after the other, fill both (`Fills.append`).
-/

namespace Cuesheet.Json.Decoder

variable {α κ σ : Type}

/-! ### Numbers, lists and dictionaries -/

theorem naturalOf_ofNat (expected : Text) {n : Nat} (h : n < Nat.pow 2 64) :
    naturalOf expected (Numeral.ofNat n) = .ok n := by
  have hnonneg : ¬ (n : Int) < 0 := by omega
  simp only [naturalOf, Numeral.value?_ofNat h, if_neg hnonneg, Int.toNat_natCast]

theorem natural_number (expected : Text) {n : Nat} (h : n < Nat.pow 2 64) :
    natural expected (number n).reading = .ok n :=
  naturalOf_ofNat expected h

theorem list_array {d : Decoder α} {encode : α → Json} {as : List α}
    (h : ∀ a ∈ as, d (encode a).reading = .ok a) :
    list d (array (as.map encode)).reading = .ok as := by
  rw [reading, list]
  induction as with
  | nil => rfl
  | cons a as ih =>
    obtain ⟨ha, has⟩ := List.forall_mem_cons.mp h
    rw [List.map_cons, readingItems, items, ha, ih has]
    rfl

/-- Digits need no escape. -/
theorem flatMap_escaped_ofNat (n : Nat) : (Text.ofNat n).flatMap escaped = Text.ofNat n := by
  have hplain : ∀ c : Char, c.isDigit = true → escaped c = [c] := by
    intro c hc
    have hne : ∀ d : Char, d.isDigit = false → c ≠ d := fun _ hd => Text.ne_of_isDigit hc hd
    have hlow : 0x30 ≤ c.toNat := (Char.isDigit_iff_toNat.mp hc).1
    simp only [escaped, if_neg (hne '"' rfl), if_neg (hne '\\' rfl), if_neg (hne '\n' rfl),
      if_neg (hne '\r' rfl), if_neg (hne '\t' rfl)]
    rw [if_neg (by omega), if_neg (by omega), if_neg (by omega)]
  have hall := Text.isDigit_of_mem_ofNat (n := n)
  generalize Text.ofNat n = t at hall
  induction t with
  | nil => rfl
  | cons c t ih =>
    obtain ⟨hc, ht⟩ := List.forall_mem_cons.mp hall
    rw [List.flatMap_cons, hplain c hc, ih ht]
    rfl

theorem raw_ofNat (n : Nat) : (Key.of (Text.ofNat n)).raw = Text.ofNat n := by
  simp only [Key.of, flatMap_escaped_ofNat]
  refine List.takeWhile_eq_self_iff.mpr fun c hc => ?_
  have hdigit := Text.isDigit_of_mem_ofNat (n := n) c hc
  exact decide_eq_true (Text.ne_of_isDigit hdigit rfl)

theorem keyIndex_ofNat {n : Nat} (h : n < Nat.pow 2 64) :
    keyIndex (.of (Text.ofNat n)) = .ok n := by
  have hlex := Numeral.lex?_ofNat n stops_nil
  rw [List.append_nil] at hlex
  simp only [keyIndex, raw_ofNat, hlex, naturalOf_ofNat "usize" h]
  rfl

section Dictionary

variable [Ord κ] [Std.TransOrd κ] [Std.LawfulEqOrd κ]
variable {key : Key → Except Error κ} {d : Decoder α} {k : κ → Text} {w : α → Json}

/-- Ascending entries are put after those that are there. -/
theorem entries_object {es : List (κ × α)} (hkey : ∀ e ∈ es, key (.of (k e.1)) = .ok e.1)
    (hd : ∀ e ∈ es, d (w e.2).reading = .ok e.2) (into : Dictionary κ α)
    (h : (into.entries ++ es).Pairwise fun a b => compare a.1 b.1 = .lt) :
    entries key d into (readingMembers (es.map fun e => (k e.1, w e.2))) =
      .ok ⟨into.entries ++ es, h⟩ := by
  induction es generalizing into with
  | nil =>
    refine congrArg Except.ok (Dictionary.ext ?_)
    simp
  | cons e es ih =>
    obtain ⟨hkeyHead, hkeyTail⟩ := List.forall_mem_cons.mp hkey
    obtain ⟨hHead, hTail⟩ := List.forall_mem_cons.mp hd
    have hlt : ∀ x ∈ into.entries, compare x.1 e.1 = .lt :=
      fun x hx => (List.pairwise_append.mp h).2.2 x hx e (List.mem_cons_self ..)
    have hentries := Dictionary.entries_insert_of_lt (v := e.2) hlt
    have hpairwise : ((into.insert e.1 e.2).entries ++ es).Pairwise
        fun a b => compare a.1 b.1 = .lt := by
      rw [hentries, List.append_assoc]
      exact h
    have hrest := ih hkeyTail hTail (into.insert e.1 e.2) hpairwise
    rw [List.map_cons, readingMembers, entries, hkeyHead, hHead]
    refine hrest.trans (congrArg Except.ok (Dictionary.ext ?_))
    simp [hentries]

/-- A dictionary is decoded from the object that has its entries for members. -/
theorem dictionary_object (e : Dictionary κ α)
    (hkey : ∀ x ∈ e.entries, key (.of (k x.1)) = .ok x.1)
    (hd : ∀ x ∈ e.entries, d (w x.2).reading = .ok x.2) :
    dictionary key d (object (e.entries.map fun x => (k x.1, w x.2))).reading = .ok e :=
  entries_object hkey hd ∅ e.ascending

end Dictionary

/-! ### Records -/

section Record

variable (fields : List (FieldRule σ)) (other : σ → Text → Decoder σ)

/-- The members take the record from one state to another in front of any others, as long as the
fields they fill have not been given before. -/
def Fills (names : List Text) (ms : List (Text × Json)) (s s' : σ) : Prop :=
  ∀ given rest, (∀ n ∈ names, n ∉ given) → ∃ given', given' ⊆ names ++ given ∧
    membersInto fields other given s (readingMembers (ms ++ rest)) =
      membersInto fields other given' s' (readingMembers rest)

variable {fields other} {names : List Text} {ms : List (Text × Json)} {s s' : σ}

/-- A member goes to the first field that answers to its name. -/
theorem membersInto_cons (given : List Text) (s : σ) (k : Text) (v : Json)
    (ms : List (Text × Json)) :
    membersInto fields other given s (readingMembers ((k, v) :: ms)) =
      match fields.find? (·.answersTo k) with
      | some f =>
        if given.contains f.name then fail (.duplicateField f.name)
        else f.read s v.reading >>= fun s =>
          membersInto fields other (f.name :: given) s (readingMembers ms)
      | none =>
        other s k v.reading >>= fun s => membersInto fields other given s (readingMembers ms) :=
  rfl

theorem Fills.nil (s : σ) : Fills fields other names [] s s :=
  fun given _ _ => ⟨given, List.subset_append_right .., rfl⟩

/-- Members that fill other fields may follow. -/
theorem Fills.append {names' : List Text} {ms' : List (Text × Json)} {s'' : σ}
    (h : Fills fields other names ms s s') (h' : Fills fields other names' ms' s' s'')
    (hnames : ∀ n ∈ names', n ∉ names) :
    Fills fields other (names ++ names') (ms ++ ms') s s'' := by
  intro given rest hgiven
  obtain ⟨given₁, hsub₁, h₁⟩ := h given (ms' ++ rest) fun n hn =>
    hgiven n (List.mem_append_left _ hn)
  have hfresh : ∀ n ∈ names', n ∉ given₁ := by
    intro n hn hmem
    rcases List.mem_append.mp (hsub₁ hmem) with hin | hin
    · exact hnames n hn hin
    · exact hgiven n (List.mem_append_right _ hn) hin
  obtain ⟨given₂, hsub₂, h₂⟩ := h' given₁ rest hfresh
  refine ⟨given₂, fun n hn => ?_, ?_⟩
  · rcases List.mem_append.mp (hsub₂ hn) with hin | hin
    · exact List.mem_append_left _ (List.mem_append_right _ hin)
    · rw [List.append_assoc, List.mem_append, List.mem_append]
      exact (List.mem_append.mp (hsub₁ hin)).imp_right .inr
  · rw [List.append_assoc, h₁, h₂]

/-- A member that fills a field by the field's own name or another. -/
theorem Fills.member {k : Text} {v : Json} {f : FieldRule σ}
    (hf : fields.find? (·.answersTo k) = some f) (hread : f.read s v.reading = .ok s') :
    Fills fields other [f.name] (member k v) s s' := by
  intro given rest hgiven
  have hfresh : given.contains f.name = false := by
    rw [Bool.eq_false_iff, ne_eq, List.contains_iff_mem]
    exact hgiven f.name (List.mem_cons_self ..)
  refine ⟨f.name :: given, List.Subset.refl _, ?_⟩
  rw [Json.member, List.cons_append, List.nil_append, membersInto_cons, hf]
  simp only [hfresh, hread, Bool.false_eq_true, if_false]
  rfl

/-- A member that is no field. -/
theorem Fills.unknown {k : Text} {v : Json} (hf : fields.find? (·.answersTo k) = none)
    (hread : other s k v.reading = .ok s') : Fills fields other [] (Json.member k v) s s' := by
  intro given rest _
  refine ⟨given, List.Subset.refl _, ?_⟩
  rw [Json.member, List.cons_append, List.nil_append, membersInto_cons, hf]
  simp only [hread]
  rfl

/-- What a field's value does to the record. -/
theorem read_of {name : Text} {aliases : List Text} {d : Decoder α} {put : σ → α → σ} {r : Reading}
    {a : α} (h : d r = .ok a) : (FieldRule.of name aliases d put).read s r = .ok (put s a) := by
  simp only [FieldRule.of, h]
  rfl

/-- A member that is left out without a value fills a field that may be null. -/
theorem Fills.memberOf? {k name : Text} {aliases : List Text} {w : α → Json} {d : Decoder α}
    {put : σ → Option α → σ} (a : Option α)
    (hf : fields.find? (·.answersTo k) = some (.of name aliases (nullable d) put))
    (hnone : put s none = s)
    (hread : ∀ x ∈ a, nullable d (w x).reading = .ok (some x)) :
    Fills fields other [name] (Json.memberOf? k w a) s (put s a) := by
  cases a with
  | none =>
    rw [hnone]
    exact .nil s
  | some x => exact .member hf (read_of (hread x rfl))

/-- A dictionary that is left out without entries fills a field that starts without any. -/
theorem Fills.unlessEmpty [Ord κ] {k name : Text} {aliases : List Text} {v : Json}
    {d : Decoder (Dictionary κ α)} {put : σ → Dictionary κ α → σ} (e : Dictionary κ α)
    (hf : fields.find? (·.answersTo k) = some (.of name aliases d put))
    (hempty : put s ∅ = s) (hread : d v.reading = .ok e) :
    Fills fields other [name] (Json.omitIf e.isEmpty (Json.member k v)) s (put s e) := by
  cases he : e.isEmpty with
  | true =>
    have hentries : e = ∅ := Dictionary.ext (List.isEmpty_iff.mp he)
    rw [hentries, hempty]
    exact .nil s
  | false => exact .member hf (read_of hread)

/-- Members that fill a record are decoded to it. -/
theorem Fills.membersInto_eq (h : Fills fields other names ms s s') :
    membersInto fields other [] s (readingMembers ms) = .ok s' := by
  obtain ⟨given, -, heq⟩ := h [] [] fun _ _ => List.not_mem_nil
  rw [List.append_nil] at heq
  rw [heq, readingMembers, membersInto]

theorem Fills.record {e : Text} {a : σ} (h : Fills fields ignore names ms s s')
    (hs : s' = a) : record e fields s (object ms).reading = .ok a :=
  hs ▸ h.membersInto_eq

end Record

/-! ### Soundness -/

theorem isSound_items {n : Nat} {vs : List Json} (h : ∀ v ∈ vs, v.reading.isSound n) :
    (readingItems vs).isSound n = true := by
  induction vs with
  | nil => rfl
  | cons v vs ih =>
    obtain ⟨hv, hvs⟩ := List.forall_mem_cons.mp h
    rw [readingItems, Items.isSound, hv, ih hvs]
    rfl

theorem forall_mem_memberOf? {name : Text} {encode : α → Json} {a : Option α}
    {P : Text × Json → Prop} : (∀ m ∈ Json.memberOf? name encode a, P m) ↔ ∀ x ∈ a, P (name, encode x) := by
  cases a with
  | none => simp [Json.memberOf?]
  | some x => simp [Json.memberOf?, Json.member]

theorem isSound_members {n : Nat} {ms : List (Text × Json)}
    (h : ∀ m ∈ ms, m.2.reading.isSound n) : (readingMembers ms).isSound n = true := by
  induction ms with
  | nil => rfl
  | cons m ms ih =>
    obtain ⟨hm, hms⟩ := List.forall_mem_cons.mp h
    simp only [readingMembers, Members.isSound, Key.of, hm, ih hms]
    rfl

end Cuesheet.Json.Decoder
