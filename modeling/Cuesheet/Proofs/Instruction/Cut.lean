import Cuesheet.Proofs.Instruction.Phrase
import Cuesheet.Proofs.Instruction.Twin

/-!
Twins cut by a phrase.

What a compound phrase cuts out of twins are twins: the condition and the action of a conditional
(`conditional?_twins`), the condition of a report (`report?_twins`), and what a lead leaves. Both cuts
are made at the first place of a text where something follows (`splitFirst`). That place is found in
the text before the literal, at its quotes or in the text after it (`EndsBefore.splitFirst_append`): a
literal that is silent in its clause is not cut there.
-/

namespace Cuesheet.Instruction

variable {q : Char} {x y a b u v s t : Text}

/-! ### The first cut of a text -/

/-- The front of a text up to the first place after a character where `find` has an answer. -/
def splitFirst {β : Type} (find : Text → Option β) : Text → Option (Text × β)
  | [] => none
  | c :: t =>
    match find t with
    | some r => some ([c], r)
    | none => (splitFirst find t).map fun (front, r) => (c :: front, r)

theorem splitAtThen?_eq (t : Text) : splitAtThen? t = splitFirst afterThen? t := by
  induction t with
  | nil => rfl
  | cons c t ih =>
    rw [splitAtThen?, splitFirst, ih]
    cases afterThen? t <;> rfl

theorem splitAtMessageEnd?_eq (t : Text) : splitAtMessageEnd? t = splitFirst messageEnd? t := by
  induction t with
  | nil => rfl
  | cons c t ih =>
    rw [splitAtMessageEnd?, splitFirst, ih]
    cases messageEnd? t <;> rfl

theorem splitFirst_eq_some {β : Type} {find : Text → Option β} {front : Text} {r : β}
    (h : splitFirst find t = some (front, r)) :
    front ≠ [] ∧ ∃ rest, t = front ++ rest ∧ find rest = some r := by
  induction t generalizing front with
  | nil => cases h
  | cons c t ih =>
    rw [splitFirst] at h
    split at h
    next r' hr =>
      obtain ⟨rfl, rfl⟩ := Prod.mk.inj (Option.some.inj h)
      exact ⟨by simp, t, rfl, hr⟩
    next =>
      obtain ⟨⟨front', r'⟩, hsplit, he⟩ := Option.map_eq_some_iff.mp h
      obtain ⟨rfl, rfl⟩ := Prod.mk.inj he
      obtain ⟨-, rest, rfl, hrest⟩ := ih hsplit
      exact ⟨by simp, rest, rfl, hrest⟩

/-- What `find` answers before a quote, `before` answers on the text up to it. -/
structure EndsBefore (q : Char) {β : Type} (find : Text → Option β) (before : Text → Option Text)
    (extend : Text → β) : Prop where
  nil : before [] = none
  find : ∀ v u, v ≠ [] → find (v ++ q :: u) = (before v).map fun r => extend (r ++ q :: u)

/-- The first cut is before the quote, at it or after it. -/
theorem EndsBefore.splitFirst_append {β : Type} {find : Text → Option β} {before : Text → Option Text}
    {extend : Text → β} (h : EndsBefore q find before extend) (hv : v ≠ []) (u : Text) :
    splitFirst find (v ++ q :: u) =
      ((splitFirst before v).map fun (front, r) => (front, extend (r ++ q :: u))).or
        (match find (q :: u) with
        | some r => some (v, r)
        | none => (splitFirst find (q :: u)).map fun (front, r) => (v ++ front, r)) := by
  induction v with
  | nil => exact absurd rfl hv
  | cons c v ih =>
    rw [List.cons_append, splitFirst, splitFirst]
    cases v with
    | nil =>
      rw [List.nil_append, h.nil, splitFirst]
      rfl
    | cons d v =>
      rw [h.find (d :: v) u (by simp), ih (by simp)]
      cases before (d :: v) with
      | some r => rfl
      | none =>
        simp only [Option.map_none]
        cases splitFirst before (d :: v) with
        | some r => rfl
        | none =>
          cases find (q :: u) with
          | some r => rfl
          | none => cases splitFirst find (q :: u) <;> rfl

/-! ### Conditionals -/

/-- What follows `then` before a quote. -/
def beforeThen? (t : Text) : Option Text :=
  (Text.after? ", then " t).orElse fun _ => Text.after? " then " t

theorem beforeThen?_eq_some {r : Text} (h : beforeThen? t = some r) :
    t = ", then " ++ r ∨ t = " then " ++ r := by
  rw [beforeThen?] at h
  cases hc : Text.after? ", then " t with
  | some r' =>
    rw [hc] at h
    obtain rfl := Option.some.inj h
    exact .inl (Text.eq_append_of_after? hc)
  | none =>
    rw [hc] at h
    exact .inr (Text.eq_append_of_after? h)

theorem afterThen?_quote (hq : isQuote q = true) (v u : Text) :
    afterThen? (v ++ q :: u) = (beforeThen? v).map (· ++ q :: u) := by
  rw [afterThen?, beforeThen?, restAfter?_quote hq (by decide), restAfter?_quote hq (by decide)]
  cases Text.after? ", then " v <;> rfl

theorem endsBefore_then (hq : isQuote q = true) : EndsBefore q afterThen? beforeThen? id :=
  ⟨rfl, fun v u _ => afterThen?_quote hq v u⟩

/-- A `then` stands before the quote or after it. -/
theorem splitAtThen?_quote (hq : isQuote q = true) (v u : Text) : splitFirst afterThen? (v ++ q :: u) =
    ((splitFirst beforeThen? v).map fun (front, r) => (front, r ++ q :: u)).or
      ((splitFirst afterThen? (q :: u)).map fun (front, r) => (v ++ front, r)) := by
  by_cases hv : v = []
  · rw [hv, List.nil_append]
    cases splitFirst afterThen? (q :: u) <;> rfl
  · have hnone : afterThen? (q :: u) = none := afterThen?_quote hq [] u
    rw [(endsBefore_then hq).splitFirst_append hv, hnone]
    rfl

/-- With no `then` before a literal, one after its opening quote is where the conditional is cut. -/
theorem conditional?_quote (hq : isQuote q = true) (hnone : splitFirst beforeThen? a = none) (u : Text) :
    conditional? ("if " ++ a ++ q :: u) =
      (splitFirst afterThen? (q :: u)).map fun (front, r) => (a ++ front, r) := by
  rw [conditional?, List.append_assoc, Text.after?_append, Option.bind_some, splitAtThen?_eq,
    splitAtThen?_quote hq, hnone]
  rfl

/-- No `then` stands in the literal of a conditional that is not cut before it. -/
theorem splitFirst_then_contents (hq : isQuote q = true) (hx : Plain x)
    (h : Around q x ("if " ++ a) b) (hfront : Front ("if " ++ a) ("if " ++ a))
    (hnone : splitFirst beforeThen? a = none) : splitFirst beforeThen? (q :: x) = none := by
  rw [Option.eq_none_iff_forall_not_mem]
  rintro ⟨front, r⟩ hsome
  -- Otherwise the conditional is cut there, which is within the literal.
  have hcut : conditional? ("if " ++ a ++ quoted q x) = some (a ++ front, r ++ [q]) := by
    have hend := splitAtThen?_quote hq (q :: x) []
    rw [hsome] at hend
    rw [quoted, conditional?_quote hq hnone]
    exact congrArg (Option.map _) hend
  obtain ⟨-, rest, hsplit, hthen⟩ := splitFirst_eq_some hsome
  have hlength := congrArg List.length hsplit
  have hrest : 0 < rest.length := by
    rcases beforeThen?_eq_some hthen with rfl | rfl <;> exact Nat.succ_pos _
  rw [List.length_cons, List.length_append] at hlength
  refine (h.silent _ hfront).no_then _ hcut ?_
  rw [List.length_append, ← Nat.add_assoc, ← List.length_append]
  exact within_quoted hq (hx.not_mem hq) h.opens (by omega)

theorem conditional?_around (hq : isQuote q = true) (hx : Plain x)
    (h : Around q x ("if " ++ a) b) (hfront : Front ("if " ++ a) ("if " ++ a)) :
    conditional? ("if " ++ a ++ (quoted q x ++ b)) =
      ((splitFirst beforeThen? a).map fun (front, r) => (front, r ++ (quoted q x ++ b))).or
        ((splitFirst afterThen? (q :: b)).map fun (front, r) => (a ++ (q :: x ++ front), r)) := by
  rw [quoted_append]
  cases hbefore : splitFirst beforeThen? a with
  | some r =>
    rw [conditional?, List.append_assoc, Text.after?_append, Option.bind_some, splitAtThen?_eq,
      splitAtThen?_quote hq, hbefore]
    rfl
  | none =>
    have hcontents := splitFirst_then_contents hq hx h hfront hbefore
    rw [conditional?_quote hq hbefore, ← List.cons_append, splitAtThen?_quote hq, hcontents]
    simp [Option.map_map, Function.comp_def]

theorem link_of_then {rest r : Text} (h : beforeThen? rest = some r) :
    ∃ link, rest = link ++ r ∧ Link link := by
  have hplain : ∀ w : Text, w = "then " ∨ w = " then " →
      (∀ d ∈ w, isQuote d = false) ∧ ∃ d ∈ w.getLast?, Text.isBlank d = true := by
    rintro w (rfl | rfl) <;> exact ⟨Text.forall_of_any_eq_false (by decide), ' ', rfl, by decide⟩
  rcases beforeThen?_eq_some h with rfl | rfl
  · exact ⟨_, rfl, ⟨',', " then ", rfl, .inr (by decide), hplain _ (.inr rfl)⟩,
      ", ", "then", " ", rfl, by decide, ⟨' ', rfl, by decide⟩, blank_space⟩
  · exact ⟨_, rfl, ⟨' ', "then ", rfl, .inl (by decide), hplain _ (.inl rfl)⟩,
      " ", "then", " ", rfl, by decide, ⟨' ', rfl, by decide⟩, blank_space⟩

/-- After the `then` of a conditional before a literal a clause can begin. -/
theorem Around.starts_of_then (hq : isQuote q = true) (hx : Plain x) {front rest r : Text}
    (h : Around q x ("if " ++ (front ++ rest)) b)
    (hfront : Front ("if " ++ (front ++ rest)) ("if " ++ (front ++ rest)))
    (hcut : splitFirst beforeThen? (front ++ rest) = some (front, r)) (hthen : beforeThen? rest = some r) :
    ∃ link, rest = link ++ r ∧ Starts ("if " ++ front ++ link) := by
  obtain ⟨link, rfl, hlink⟩ := link_of_then hthen
  have hcond : conditional? ("if " ++ (front ++ (link ++ r)) ++ quoted q x) =
      some (front, r ++ quoted q x) := by
    rw [conditional?, List.append_assoc, Text.after?_append, Option.bind_some, splitAtThen?_eq, quoted,
      splitAtThen?_quote hq, hcut]
    rfl
  have hopens := h.opens
  rw [← List.append_assoc] at hopens
  refine ⟨link, rfl, hlink.starts hopens fun hin => ?_⟩
  refine (h.silent _ hfront).no_then _ hcond ?_
  rw [List.append_assoc, List.length_append] at hin
  exact hin.append_quoted hq (hx.not_mem hq) h.opens

/-- **The conditions of twins are twins, and so are the actions.** -/
theorem conditional?_twins (hq : isQuote q = true) (hx : Plain x) (hy : Plain y)
    (h : Around q x a b) (h' : Around q y a b) (hfront : Front a a) :
    Option.Rel (fun r r' => Twins q x y r.1 r'.1 ∧ Twins q x y r.2 r'.2)
      (conditional? (a ++ (quoted q x ++ b))) (conditional? (a ++ (quoted q y ++ b))) := by
  cases hif : Text.after? "if " a with
  | none =>
    have hnone : ∀ x, conditional? (a ++ (quoted q x ++ b)) = none := by
      intro x
      rw [conditional?, quoted_append, after?_quote hq (by decide), hif]
      rfl
    rw [hnone, hnone]
    exact .none
  | some a' =>
    obtain rfl := Text.eq_append_of_after? hif
    rw [conditional?_around hq hx h hfront, conditional?_around hq hy h' hfront]
    cases hbefore : splitFirst beforeThen? a' with
    | some r =>
      -- The action holds the literal.
      obtain ⟨front, r⟩ := r
      obtain ⟨-, rest, rfl, hthen⟩ := splitFirst_eq_some hbefore
      obtain ⟨link, rfl, hstarts⟩ := h.starts_of_then hq hx hfront hbefore hthen
      have hsplit : "if " ++ (front ++ (link ++ r)) = "if " ++ front ++ link ++ r := by simp
      rw [hsplit] at h h'
      exact .some ⟨.same front, .around (h.suffix hstarts) (h'.suffix hstarts)⟩
    | none =>
      cases hafter : splitFirst afterThen? (q :: b) with
      | none => exact .none
      | some r =>
        -- The condition holds the literal.
        obtain ⟨front, r⟩ := r
        obtain ⟨hne, rest, hsplit, hthen⟩ := splitFirst_eq_some hafter
        obtain ⟨c, front, rfl⟩ := List.exists_cons_of_ne_nil hne
        obtain ⟨rfl, rfl⟩ := List.cons.inj hsplit
        have hstarts : Starts "if " := by decide
        have htwins := Twins.around (h.piece hstarts) (h'.piece hstarts)
        refine .some ⟨?_, .same r⟩
        rw [quoted_append, quoted_append] at htwins
        exact htwins

/-! ### Reports -/

/-- What follows the end of a message, and its `if`, before a quote. -/
def beforeGuard? : Text → Option Text
  | [] => none
  | c :: t => if isQuote c then Text.after? " if " t else none

theorem beforeGuard?_eq_some {r : Text} (h : beforeGuard? t = some r) :
    ∃ c, isQuote c = true ∧ t = c :: (" if " ++ r) := by
  cases t with
  | nil => cases h
  | cons c t =>
    rw [beforeGuard?] at h
    split at h
    next hc => exact ⟨c, hc, congrArg (c :: ·) (Text.eq_append_of_after? h)⟩
    next => cases h

theorem endsBefore_messageEnd (hq : isQuote q = true) :
    EndsBefore q messageEnd? beforeGuard? some := by
  refine ⟨rfl, fun v u hv => ?_⟩
  obtain ⟨c, v, rfl⟩ := List.exists_cons_of_ne_nil hv
  rw [List.cons_append, messageEnd?, beforeGuard?]
  cases isQuote c with
  | false => rfl
  | true =>
    have hne : v ++ q :: u ≠ [] := by simp
    simp only [Bool.not_true, Bool.false_eq_true, if_false, if_true, if_neg hne,
      restAfter?_quote hq (show (" if " : Text).any isQuote = false by decide), Option.map_map]
    rfl

/-- The answer of `find` at the first place where it has one. -/
def findFirst {β : Type} (find : Text → Option β) (t : Text) : Option β :=
  (find t).or ((splitFirst find t).map (·.2))

/-- Where nothing is found before the quote, the answer does not depend on what stands there. -/
theorem EndsBefore.snd_splitFirst {β : Type} {find : Text → Option β} {before : Text → Option Text}
    {extend : Text → β} (h : EndsBefore q find before extend) (hv : v ≠ [])
    (hnone : splitFirst before v = none) (u : Text) :
    (splitFirst find (v ++ q :: u)).map (·.2) = findFirst find (q :: u) := by
  rw [h.splitFirst_append hv, hnone, findFirst]
  cases find (q :: u) with
  | some r => rfl
  | none => cases splitFirst find (q :: u) <;> rfl

/-- A message does not end within contents that have no quote. -/
theorem splitFirst_guard_contents (hx : Plain x) (front : Text) (hfront : front.length ≤ 1) :
    splitFirst beforeGuard? (front ++ x) = none := by
  rw [Option.eq_none_iff_forall_not_mem]
  rintro ⟨cut, r⟩ hsome
  obtain ⟨hne, rest, hsplit, hguard⟩ := splitFirst_eq_some hsome
  obtain ⟨c, hc, rfl⟩ := beforeGuard?_eq_some hguard
  have hmem : c ∈ x := by
    rcases List.append_eq_append_iff.mp hsplit with ⟨cut', rfl, rfl⟩ | ⟨cut', hcut, hrest⟩
    · simp
    · have hcut' : cut' = [] := by
        have hpos := List.length_pos_iff.mpr hne
        have hlength := congrArg List.length hcut
        rw [List.length_append] at hlength
        exact List.length_eq_zero_iff.mp (by omega)
      rw [hcut', List.nil_append] at hrest
      rw [← hrest]
      exact List.mem_cons_self ..
  rw [hx.no_quote c hmem] at hc
  cases hc

theorem report?_append_cons {c : Char} (t : Text) : report? ("report " ++ c :: t) =
    if isQuote c then splitFirst messageEnd? t else none := by
  simp only [report?, Text.after?_append, splitAtMessageEnd?_eq]

/-- The literal is the message: what follows it does not depend on its contents. -/
theorem report?_message (hq : isQuote q = true) (hx : Plain x) (b : Text) :
    (report? ("report " ++ (quoted q x ++ b))).map (·.2) = findFirst messageEnd? (q :: b) := by
  have hnone := splitFirst_guard_contents hx [] (by simp)
  rw [quoted_append, report?_append_cons, if_pos hq,
    ← (endsBefore_messageEnd hq).snd_splitFirst hx.ne_nil hnone]

theorem messageEnd?_contents (hq : isQuote q = true) (x u : Text) : messageEnd? (q :: (x ++ q :: u)) =
    (Text.after? " if " x).map fun r => some (r ++ q :: u) := by
  have hne : x ++ q :: u ≠ [] := by simp
  rw [messageEnd?, if_neg (by simp [hq]), if_neg hne, restAfter?_quote hq (by decide), Option.map_map]
  rfl

/-- No `if` begins the literal of a report whose message does not end before it. -/
theorem after?_if_contents (hq : isQuote q = true) (hx : Plain x) {c : Char} (hc : isQuote c = true)
    (ha : a ≠ []) (h : Around q x ("report " ++ c :: a) b)
    (hfront : Front ("report " ++ c :: a) ("report " ++ c :: a))
    (hnone : splitFirst beforeGuard? a = none) : Text.after? " if " x = none := by
  cases hif : Text.after? " if " x with
  | none => rfl
  | some r =>
    -- Otherwise the message ends at the opening quote of the literal.
    have hcut : report? ("report " ++ c :: a ++ quoted q x) = some (a, some (r ++ [q])) := by
      rw [List.append_assoc, List.cons_append, report?_append_cons, if_pos hc, quoted,
        (endsBefore_messageEnd hq).splitFirst_append ha, hnone, messageEnd?_contents hq, hif]
      rfl
    refine absurd ?_ ((h.silent _ hfront).no_guard _ hcut (by simp))
    have hlength : ("report '" : Text).length + a.length = ("report " ++ c :: a : Text).length + 0 := by
      simp
      omega
    show Within _ (("report '" : Text).length + a.length)
    rw [hlength]
    exact within_quoted hq (hx.not_mem hq) h.opens (Nat.zero_le _)

/-- The literal comes after the message began: the message ends before it, or after it. -/
theorem report?_around (hq : isQuote q = true) (hx : Plain x) {c : Char} (hc : isQuote c = true)
    (ha : a ≠ []) (h : Around q x ("report " ++ c :: a) b)
    (hfront : Front ("report " ++ c :: a) ("report " ++ c :: a)) :
    (report? ("report " ++ c :: a ++ (quoted q x ++ b))).map (·.2) =
      ((splitFirst beforeGuard? a).map fun r => some (r.2 ++ (quoted q x ++ b))).or
        (findFirst messageEnd? (q :: b)) := by
  have hends := endsBefore_messageEnd hq
  rw [List.append_assoc, List.cons_append, report?_append_cons, if_pos hc, quoted_append,
    hends.splitFirst_append ha]
  cases hguard : splitFirst beforeGuard? a with
  | some r => rfl
  | none =>
    have hopening : messageEnd? (q :: (x ++ q :: b)) = none := by
      rw [messageEnd?_contents hq, after?_if_contents hq hx hc ha h hfront hguard]
      rfl
    have hcontents := splitFirst_guard_contents hx [q] (Nat.le_refl 1)
    have hafter := hends.snd_splitFirst (v := [q] ++ x) (by simp) hcontents b
    rw [List.append_assoc] at hafter
    rw [hopening, ← hafter]
    simp only [Option.map_none, Option.none_or, Option.map_map]
    rfl

theorem link_guard (c : Char) : Link (c :: " if ") :=
  ⟨⟨c, " if ", rfl, .inr (by decide), Text.forall_of_any_eq_false (by decide), ' ', rfl,
    by decide⟩, c :: " ", "if", " ", rfl, by decide, ⟨' ', rfl, by decide⟩, blank_space⟩

/-- After the `if` of a report before a literal a clause can begin. -/
theorem Around.starts_of_guard (hq : isQuote q = true) (hx : Plain x) {c : Char} (hc : isQuote c = true)
    {front rest r : Text} (h : Around q x ("report " ++ c :: (front ++ rest)) b)
    (hfront : Front ("report " ++ c :: (front ++ rest)) ("report " ++ c :: (front ++ rest)))
    (hcut : splitFirst beforeGuard? (front ++ rest) = some (front, r))
    (hguard : beforeGuard? rest = some r) :
    ∃ link, rest = link ++ r ∧ Starts ("report " ++ c :: front ++ link) := by
  obtain ⟨c', -, rfl⟩ := beforeGuard?_eq_some hguard
  have hsplit : "report " ++ c :: (front ++ c' :: (" if " ++ r)) =
      "report " ++ c :: front ++ (c' :: " if " ++ r) := by simp
  have hreport : report? ("report " ++ c :: (front ++ c' :: (" if " ++ r)) ++ quoted q x) =
      some (front, some (r ++ quoted q x)) := by
    rw [List.append_assoc, List.cons_append, report?_append_cons, if_pos hc, quoted,
      (endsBefore_messageEnd hq).splitFirst_append (by simp), hcut]
    rfl
  have hopens := h.opens
  rw [hsplit] at hopens
  refine ⟨c' :: " if ", rfl, (link_guard c').starts hopens fun hin => ?_⟩
  refine (h.silent _ hfront).no_guard _ hreport (by simp) ?_
  have hlength : ("report " ++ c :: front : Text).length = ("report '" : Text).length + front.length := by
    simp
    omega
  rw [← hsplit, hlength] at hin
  exact hin.append_quoted hq (hx.not_mem hq) h.opens

/-- The conditions of reports that are twins are twins. -/
theorem report?_twins (hq : isQuote q = true) (hx : Plain x) (hy : Plain y)
    (h : Around q x a b) (h' : Around q y a b) (hfront : Front a a) :
    Option.Rel (fun r r' => Option.Rel (Twins q x y) r.2 r'.2) (report? (a ++ (quoted q x ++ b)))
      (report? (a ++ (quoted q y ++ b))) := by
  refine rel_of_map (g := Prod.snd) ?_
  have hsame := rel_refl (rel_refl (Twins.same (q := q) (x := x) (y := y)))
  cases hreport : Text.after? "report " a with
  | none =>
    have hnone : ∀ x, report? (a ++ (quoted q x ++ b)) = none := by
      intro x
      rw [report?, quoted_append, after?_quote hq (by decide), hreport]
      rfl
    rw [hnone, hnone]
    exact .none
  | some a' =>
    obtain rfl := Text.eq_append_of_after? hreport
    cases a' with
    | nil =>
      rw [List.append_nil, report?_message hq hx, report?_message hq hy]
      exact hsame _
    | cons c a' =>
      by_cases hc : isQuote c = true
      · have hne : a' ≠ [] := by
          rintro rfl
          have hopens := h.opens
          rcases isQuote_cases hc with rfl | rfl <;> exact absurd hopens (by decide)
        rw [report?_around hq hx hc hne h hfront, report?_around hq hy hc hne h' hfront]
        cases hguard : splitFirst beforeGuard? a' with
        | none => exact hsame _
        | some r =>
          -- The condition holds the literal.
          obtain ⟨front, r⟩ := r
          obtain ⟨-, rest, rfl, hrest⟩ := splitFirst_eq_some hguard
          obtain ⟨link, rfl, hstarts⟩ := h.starts_of_guard hq hx hc hfront hguard hrest
          have hsplit : "report " ++ c :: (front ++ (link ++ r)) =
              "report " ++ c :: front ++ link ++ r := by simp
          rw [hsplit] at h h'
          exact .some (.some (.around (h.suffix hstarts) (h'.suffix hstarts)))
      · have hnone : ∀ t, report? ("report " ++ c :: t) = none := fun t => by
          rw [report?_append_cons, if_neg hc]
        rw [List.append_assoc, List.append_assoc, List.cons_append, List.cons_append, hnone, hnone]
        exact .none

end Cuesheet.Instruction
