import Cuesheet.Proofs.Clause
import Cuesheet.Proofs.Instruction.Phrase
import Cuesheet.Proofs.Instruction.Reading

/-!
Compound phrases, read from their operands.

A compound phrase that neither "and" nor "or" cuts is read from its operands, one level further down
(`read_compound`). A check may follow any names, so the checks would claim the one that stands inside
the phrase; but they pass every text that a compound phrase leads (`Undivided.firstClaim`). The operands
are arbitrary instructions, and what bounds them is the first place where the phrase can go on: the
first `then` (`splitAtThen?_append`) or the first quote after a message.
-/

namespace Cuesheet.Instruction

/-! ### Where a condition ends -/

theorem prefix_of_prefix_append_cons {p v y : Text} {c : Char} (h : p <+: v ++ c :: y)
    (hc : c ∉ p) : p <+: v := by
  rcases List.prefix_or_prefix_of_prefix h (List.prefix_append v (c :: y)) with hp | ⟨z, rfl⟩
  · exact hp
  · have hz : z <+: c :: y := (List.prefix_append_right_inj v).mp h
    cases z with
    | nil => simp
    | cons d z =>
      obtain ⟨rfl, _⟩ := List.cons_prefix_cons.mp hz
      exact absurd (by simp) hc

/-- A word between two spaces that begins before a space of the text ends there at the latest. -/
theorem spaced_prefix {word d y : Text} (hword : ' ' ∉ word) (hd : d ≠ [])
    (h : ' ' :: (word ++ " ") <+: d ++ ' ' :: y) : ' ' :: (word ++ " ") <+: d ++ " " := by
  obtain ⟨c, d, rfl⟩ := List.exists_cons_of_ne_nil hd
  obtain ⟨rfl, hrest⟩ := List.cons_prefix_cons.mp h
  obtain ⟨z, rfl⟩ := prefix_of_prefix_append_cons ((List.prefix_append word " ").trans hrest) hword
  have hspace : " " <+: z ++ ' ' :: y := by
    rwa [List.append_eq, List.append_assoc, List.prefix_append_right_inj] at hrest
  rw [List.cons_append, List.cons_prefix_cons, List.append_assoc, List.prefix_append_right_inj]
  refine ⟨rfl, ?_⟩
  cases z with
  | nil => exact List.prefix_rfl
  | cons c z =>
    obtain ⟨rfl, _⟩ := List.cons_prefix_cons.mp hspace
    exact ⟨z ++ " ", rfl⟩

/-- What stands between a condition and its action. -/
def links : List Text := [" then ", ", then "]

/-- A condition that goes up to the first `then`. -/
structure EndsAtThen (condition : Text) : Prop where
  ne_nil : condition ≠ []
  no_then : ¬ (" then " : Text) <:+: (condition ++ " " : Text)
  no_comma : condition.getLast? ≠ some ','

variable {condition action link : Text}

/-- No `then` begins in the condition. -/
theorem EndsAtThen.not_then (h : EndsAtThen condition) (hlink : link ∈ links) {u v rest : Text}
    (hsplit : condition = u ++ v) (hv : v ≠ []) : v ++ (link ++ action) ≠ (" then " ++ rest : Text) := by
  intro he
  have hwithin : (" then " : Text) <+: (v ++ " " : Text) := by
    have hprefix : (" then " : Text) <+: v ++ (link ++ action) := he ▸ List.prefix_append _ _
    simp only [links, List.mem_cons, List.not_mem_nil, or_false] at hlink
    rcases hlink with rfl | rfl
    · exact spaced_prefix (by decide : ' ' ∉ ("then" : Text)) hv hprefix
    · exact (prefix_of_prefix_append_cons hprefix (by decide)).trans (List.prefix_append v " ")
  apply h.no_then
  rw [hsplit, List.append_assoc]
  exact hwithin.isInfix.trans (List.suffix_append u _).isInfix

/-- Nowhere in the condition can an action follow. -/
theorem EndsAtThen.afterThen?_eq_none (h : EndsAtThen condition) (hlink : link ∈ links)
    {u v : Text} (hsplit : condition = u ++ v) (hv : v ≠ []) :
    afterThen? (v ++ (link ++ action)) = none := by
  cases hthen : afterThen? (v ++ (link ++ action)) with
  | none => rfl
  | some rest =>
    obtain ⟨he | he, _⟩ := afterThen?_eq_some hthen
    · -- only the comma before a `then` could belong to the condition
      have hcomma : (", then " ++ rest : Text) = ',' :: (" then " ++ rest) := rfl
      obtain ⟨c, v, rfl⟩ := List.exists_cons_of_ne_nil hv
      rw [hcomma, List.cons_append] at he
      obtain ⟨rfl, htail⟩ := List.cons.inj he
      by_cases hnil : v = []
      · exact absurd (by rw [hsplit, hnil, List.getLast?_concat]) h.no_comma
      · refine absurd htail (h.not_then (u := u ++ [',']) hlink ?_ hnil)
        rw [hsplit, List.append_assoc]
        rfl
    · exact absurd he (h.not_then hlink hsplit hv)

theorem afterThen?_link (hlink : link ∈ links) (haction : action ≠ []) :
    afterThen? (link ++ action) = some action := by
  simp only [links, List.mem_cons, List.not_mem_nil, or_false] at hlink
  rcases hlink with rfl | rfl
  · have hpass : restAfter? ", then " (" then " ++ action) = none := rfl
    rw [afterThen?, hpass]
    exact restAfter?_eq_some_iff.mpr ⟨rfl, haction⟩
  · have hcomma : restAfter? ", then " (", then " ++ action) = some action :=
      restAfter?_eq_some_iff.mpr ⟨rfl, haction⟩
    rw [afterThen?, hcomma]
    rfl

/-- The condition is what stands before the first place where an action can follow. -/
theorem splitAtThen?_append {rest : Text} (hne : condition ≠ [])
    (hbefore : ∀ u v, condition = u ++ v → v ≠ [] → afterThen? (v ++ rest) = none)
    (hthen : afterThen? rest = some action) :
    splitAtThen? (condition ++ rest) = some (condition, action) := by
  induction condition with
  | nil => exact absurd rfl hne
  | cons c condition ih =>
    rw [List.cons_append, splitAtThen?]
    by_cases hnil : condition = []
    · rw [hnil, List.nil_append, hthen]
    · have hrest := ih hnil fun u v he hv => hbefore (c :: u) v (by rw [he]; rfl) hv
      rw [hbefore [c] condition rfl hnil, hrest]
      rfl

/-- The condition and the action of a conditional are found as they were put together. -/
theorem conditional?_append (h : EndsAtThen condition) (hlink : link ∈ links)
    (haction : action ≠ []) :
    conditional? ("if " ++ (condition ++ (link ++ action))) = some (condition, action) := by
  have hsplit : splitAtThen? (condition ++ (link ++ action)) = some (condition, action) :=
    splitAtThen?_append h.ne_nil (fun _ _ he hv => h.afterThen?_eq_none hlink he hv)
      (afterThen?_link hlink haction)
  rw [conditional?, Text.after?_append, Option.bind_some, hsplit]

/-! ### Where a message ends -/

/-- The message is what stands before the first quote. -/
theorem splitAtMessageEnd?_append {message rest : Text} {guard : Option Text} (hne : message ≠ [])
    (hquote : ∀ c ∈ message, isQuote c = false) (hend : messageEnd? rest = some guard) :
    splitAtMessageEnd? (message ++ rest) = some (message, guard) := by
  induction message with
  | nil => exact absurd rfl hne
  | cons c message ih =>
    rw [List.cons_append, splitAtMessageEnd?]
    cases message with
    | nil => rw [List.nil_append, hend]
    | cons d message =>
      have hd : isQuote d = false := hquote d (by simp)
      have hrest := ih (List.cons_ne_nil _ _) fun e he => hquote e (List.mem_cons_of_mem c he)
      have hnone : messageEnd? (d :: message ++ rest) = none := by
        rw [List.cons_append, messageEnd?, if_pos (by rw [hd]; rfl)]
      rw [hnone, hrest]
      rfl

/-- The message of a report is found as it was quoted, with what the phrase says after it. -/
theorem report?_append {message rest : Text} {q : Char} {guard : Option Text}
    (hq : isQuote q = true) (hne : message ≠ []) (hquote : ∀ c ∈ message, isQuote c = false)
    (hend : messageEnd? rest = some guard) :
    report? ("report " ++ q :: (message ++ rest)) = some (message, guard) := by
  rw [report?, Text.after?_append]
  simp only [hq, if_true]
  exact splitAtMessageEnd?_append hne hquote hend

/-! ### Texts that a compound phrase leads -/

/-- An instruction in lower case, without outer blanks, that neither separating word cuts. -/
structure Undivided (t : Text) : Prop where
  trimmed : Text.trim t = t
  lower : Text.lower t = t
  no_and : openSeparators "and" t = []
  no_or : openSeparators "or" t = []

instance (t : Text) : Decidable (Undivided t) :=
  decidable_of_iff (Text.trim t = t ∧ Text.lower t = t ∧ openSeparators "and" t = [] ∧
      openSeparators "or" t = [])
    ⟨fun ⟨ht, hl, ha, ho⟩ => ⟨ht, hl, ha, ho⟩, fun h => ⟨h.trimmed, h.lower, h.no_and, h.no_or⟩⟩

namespace Undivided

variable {t : Text}

theorem ready (h : Undivided t) (hne : t ≠ []) : Ready t :=
  ⟨hne, Text.trim_eq_self_iff.mp h.trimmed, h.lower⟩

/-- What ends an undivided text after a space is not empty. -/
theorem ne_nil_of_append {lead operand : Text} (h : Undivided (lead ++ operand))
    (hlead : lead.getLast? = some ' ') : operand ≠ [] := by
  rintro rfl
  have hlast := (Text.trim_eq_self_iff.mp h.trimmed).last ' ' (by rw [List.append_nil]; exact hlead)
  exact absurd hlast (by decide)

/-- The patterns of checks pass a text that a compound phrase leads, and so does a wait. -/
theorem firstClaim (h : Undivided t) (hlead : hasCompoundLead t = true)
    (reader : Text → Option Clause) :
    Instruction.firstClaim reader t Pattern.order =
      Instruction.firstClaim reader t [.conditional, .retryUntil, .report, .onFailure] := by
  have hand : splitAt? "and" t = none := by rw [splitAt?, h.no_and]
  have hor : splitAt? "or" t = none := by rw [splitAt?, h.no_or]
  have hcompound : isCompound t = true := by rw [isCompound, hlead, Bool.true_or]
  have hwait : Pattern.wait.claim reader t = .pass := by rw [Pattern.claim, if_pos hlead]
  simp only [Pattern.order, Instruction.firstClaim, hwait]
  simp only [Pattern.claim, hand, hor, hcompound, if_true]

end Undivided

/-- A compound phrase leads a text that goes on after it with a space. -/
theorem hasCompoundLead_append {lead rest : Text} (hlead : lead ∈ compoundLeads) :
    hasCompoundLead (lead ++ ' ' :: rest) = true := by
  refine List.any_eq_true.mpr ⟨lead, hlead, ?_⟩
  rw [Text.after?_append]
  rfl

/-! ### Reading -/

/-- A conditional is read from its condition; an action that is not understood is kept as worded. -/
theorem read_conditional (h : EndsAtThen condition) (hlink : link ∈ links) (haction : action ≠ [])
    (hwhole : Undivided ("if " ++ (condition ++ (link ++ action)))) (below : Nat) :
    read (below + 1) ("if " ++ (condition ++ (link ++ action))) =
      (read below condition).map fun c =>
        .conditional c (read below (Text.trim action)) (Text.trim action) := by
  have hlead : hasCompoundLead ("if " ++ (condition ++ (link ++ action))) = true :=
    hasCompoundLead_append (by decide : ("if" : Text) ∈ compoundLeads)
  have hfind := conditional?_append h hlink haction
  rw [(hwhole.ready (List.cons_ne_nil _ _)).read, hwhole.firstClaim hlead, firstClaim]
  simp only [Pattern.claim, hfind]
  cases read below condition with
  | none => rfl
  | some c => rfl

/-- A retry is read whether or not its condition is understood. -/
theorem read_retryUntil (hwhole : Undivided ("retry until " ++ condition)) (below : Nat) :
    read (below + 1) ("retry until " ++ condition) =
      some (.retryUntil (read below (Text.trim condition)) (Text.trim condition)) := by
  have hlead : hasCompoundLead ("retry until " ++ condition) = true :=
    hasCompoundLead_append (by decide : ("retry until" : Text) ∈ compoundLeads)
  have hpass : Pattern.conditional.claim (read below) ("retry until " ++ condition) = .pass := rfl
  have hfind : retryUntil? ("retry until " ++ condition) = some condition :=
    restAfter?_eq_some_iff.mpr ⟨rfl, hwhole.ne_nil_of_append rfl⟩
  rw [(hwhole.ready (List.cons_ne_nil _ _)).read, hwhole.firstClaim hlead, firstClaim, hpass]
  simp only [firstClaim, Pattern.claim, hfind]

/-- A report is claimed by its own pattern. -/
theorem read_of_report? {rest message : Text} {guard : Option Text}
    (hwhole : Undivided ("report " ++ rest))
    (hfind : report? ("report " ++ rest) = some (message, guard)) (below : Nat) :
    read (below + 1) ("report " ++ rest) =
      match optionalOperand (read below) (.report message) guard with
      | .clause c => some c
      | _ => none := by
  have hlead : hasCompoundLead ("report " ++ rest) = true :=
    hasCompoundLead_append (by decide : ("report" : Text) ∈ compoundLeads)
  have hconditional : Pattern.conditional.claim (read below) ("report " ++ rest) = .pass := rfl
  have hretry : Pattern.retryUntil.claim (read below) ("report " ++ rest) = .pass := rfl
  rw [(hwhole.ready (List.cons_ne_nil _ _)).read, hwhole.firstClaim hlead, firstClaim, hconditional]
  simp only [firstClaim, hretry]
  simp only [Pattern.claim, hfind]
  cases guard with
  | none => rfl
  | some operand =>
    simp only [optionalOperand]
    cases read below operand <;> rfl

variable {message guard : Text}

/-- A message alone is reported as it is quoted. -/
theorem read_report (hne : message ≠ []) (hquote : ∀ c ∈ message, isQuote c = false)
    (hwhole : Undivided ("report '" ++ (message ++ "'"))) (below : Nat) :
    read (below + 1) ("report '" ++ (message ++ "'")) = some (.report message none) := by
  have hfind : report? ("report " ++ '\'' :: (message ++ "'")) = some (message, none) :=
    report?_append (by decide) hne hquote rfl
  exact read_of_report? hwhole hfind below

/-- A guarded report is read from its guard. -/
theorem read_guardedReport (hne : message ≠ []) (hquote : ∀ c ∈ message, isQuote c = false)
    (hwhole : Undivided ("report '" ++ (message ++ ("' if " ++ guard)))) (below : Nat) :
    read (below + 1) ("report '" ++ (message ++ ("' if " ++ guard))) =
      (read below guard).map fun c => .report message (some c) := by
  have hguard : guard ≠ [] := by
    have hlast : ("report '" ++ (message ++ "' if ") : Text).getLast? = some ' ' := by
      rw [List.getLast?_append, List.getLast?_append]
      rfl
    have hsplit : Undivided (("report '" ++ (message ++ "' if ") : Text) ++ guard) := by
      simpa only [List.append_assoc] using hwhole
    exact hsplit.ne_nil_of_append hlast
  have hend : messageEnd? ("' if " ++ guard) = some (some guard) := by
    have hrest : restAfter? " if " (" if " ++ guard) = some guard :=
      restAfter?_eq_some_iff.mpr ⟨rfl, hguard⟩
    show Option.map some (restAfter? " if " (" if " ++ guard)) = _
    rw [hrest]
    rfl
  have hfind : report? ("report " ++ '\'' :: (message ++ ("' if " ++ guard))) =
      some (message, some guard) := report?_append (by decide) hne hquote hend
  have hread := read_of_report? hwhole hfind below
  refine hread.trans ?_
  simp only [optionalOperand]
  cases read below guard with
  | none => rfl
  | some c => rfl

/-- **Compound phrases are read from their operands**, whatever instructions those are. -/
theorem read_compound (below : Nat) :
    (∀ condition action : Text, EndsAtThen condition → action ≠ [] → ∀ link ∈ links,
      Undivided ("if " ++ (condition ++ (link ++ action))) →
      read (below + 1) ("if " ++ (condition ++ (link ++ action))) =
        (read below condition).map fun c =>
          .conditional c (read below (Text.trim action)) (Text.trim action)) ∧
    (∀ condition : Text, Undivided ("retry until " ++ condition) →
      read (below + 1) ("retry until " ++ condition) =
        some (.retryUntil (read below (Text.trim condition)) (Text.trim condition))) ∧
    (∀ message : Text, message ≠ [] → (∀ c ∈ message, isQuote c = false) →
      (Undivided ("report '" ++ (message ++ "'")) →
        read (below + 1) ("report '" ++ (message ++ "'")) = some (.report message none)) ∧
      ∀ guard : Text, Undivided ("report '" ++ (message ++ ("' if " ++ guard))) →
        read (below + 1) ("report '" ++ (message ++ ("' if " ++ guard))) =
          (read below guard).map fun c => .report message (some c)) := by
  refine ⟨?_, ?_, ?_⟩
  · intro condition action h haction link hlink hwhole
    exact read_conditional h hlink haction hwhole below
  · intro condition hwhole
    exact read_retryUntil hwhole below
  · intro message hne hquote
    exact ⟨fun hwhole => read_report hne hquote hwhole below,
      fun guard hwhole => read_guardedReport hne hquote hwhole below⟩

/-- The condition holds a quoted "and"; the action is a guarded report with a `then` of its own. -/
theorem read_compound_nested :
    let condition : Text := "the text starts with 'a and b'"
    let action : Text := "report 'seen' if value ends with ' then '"
    let settled : Text := "the page settles"
    EndsAtThen condition ∧ action ≠ [] ∧ (", then " : Text) ∈ links ∧
      Undivided ("if " ++ (condition ++ (", then " ++ action))) ∧
      read 3 ("if " ++ (condition ++ (", then " ++ action))) =
        some (.conditional (.predicate (.compares .text .startsWith "a and b"))
          (some (.report "seen" (some (.predicate (.compares .value .endsWith " then "))))) action) ∧
      Undivided ("retry until " ++ settled) ∧
      read 1 ("retry until " ++ settled) = some (.retryUntil none settled) ∧
      Undivided ("report '" ++ (("seen" : Text) ++ ("' if " ++ settled))) ∧
      read 2 ("report '" ++ (("seen" : Text) ++ ("' if " ++ settled))) = none ∧
      Undivided ("report '" ++ (("seen" : Text) ++ "'")) ∧
      read 1 ("report '" ++ (("seen" : Text) ++ "'")) = some (.report "seen" none) := by
  intro condition action settled
  have hends : EndsAtThen condition := ⟨by decide, by decide +kernel, by decide +kernel⟩
  have hif : Undivided ("if " ++ (condition ++ (", then " ++ action))) := by decide +kernel
  have hretry : Undivided ("retry until " ++ settled) := by decide +kernel
  have hguarded : Undivided ("report '" ++ (("seen" : Text) ++ ("' if " ++ settled))) := by
    decide +kernel
  have halone : Undivided ("report '" ++ (("seen" : Text) ++ "'")) := by decide +kernel
  have hcondition : read 2 condition = some (.predicate (.compares .text .startsWith "a and b")) := by
    decide +kernel
  have haction : read 2 (Text.trim action) =
      some (.report "seen" (some (.predicate (.compares .value .endsWith " then ")))) := by
    decide +kernel
  have htrim : Text.trim action = action := by decide +kernel
  have hvague : read 1 settled = none := by decide +kernel
  have hquote : ∀ c ∈ ("seen" : Text), isQuote c = false := Text.forall_of_any_eq_false (by decide)
  obtain ⟨hthree, -, -⟩ := read_compound 2
  obtain ⟨-, -, htwo⟩ := read_compound 1
  obtain ⟨-, honeRetry, honeReport⟩ := read_compound 0
  refine ⟨hends, by decide, by decide, hif, ?_, hretry, honeRetry settled hretry, hguarded, ?_, halone,
    (honeReport "seen" (by decide) hquote).1 halone⟩
  · rw [hthree condition action hends (by decide) ", then " (by decide) hif, hcondition, haction, htrim]
    rfl
  · rw [(htwo "seen" (by decide) hquote).2 settled hguarded, hvague]
    rfl

end Cuesheet.Instruction
