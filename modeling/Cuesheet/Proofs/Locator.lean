import Cuesheet.Locator
import Cuesheet.Proofs.Script.Bracket
import Cuesheet.Template

/-!
Tidy locators, and marks in locators.

What a script puts for an element is tidy if its selector is and the user's expression for it is. A
look-up of the selector in the page quotes the selector, and quoting writes a character as it is or
as an escape without brackets (`scriptChar_cases`). An escape begins with a backslash, which no
placeholder's mark holds, so a look-up holds no mark that its selector does not
(`isInfix_of_isInfix_query`).
-/

namespace Cuesheet

open Script

namespace Text

theorem inert_hexPair : ∀ n < 0xA0, Inert (hexPair n) := by decide +kernel

theorem isBracket_of_isControl {c : Char} (h : isControl c = true) : isBracket c = false := by
  rw [Bool.eq_false_iff]
  intro hbracket
  have hnone : ∀ c ∈ brackets, isControl c = false := by decide
  rw [hnone c (mem_of_isBracket hbracket)] at h
  exact Bool.noConfusion h

/-- A quoted character is itself, or an escape that stands for no bracket. -/
theorem scriptChar_cases (c : Char) :
    scriptChar c = [c] ∨ (isBracket c = false ∧ Inert (scriptChar c)) := by
  unfold scriptChar
  iterate 7
    split
    · next h => exact .inr (h ▸ by decide)
  split
  next h =>
    refine .inr ⟨isBracket_of_isControl h, fun d hd => ?_⟩
    rcases List.mem_append.mp hd with hd | hd
    · have hlead : Inert "\\x" := by decide
      exact hlead d hd
    · refine inert_hexPair c.toNat ?_ d hd
      simp only [isControl, Bool.or_eq_true, decide_eq_true_eq, Bool.and_eq_true] at h
      omega
  next => exact .inl rfl

end Text

namespace Script

theorem awaitedFrom_scriptString {t : Text} (ht : '/' ∉ t) (a : List Char) :
    awaitedFrom .code a (Text.scriptString t) = awaitedFrom .code a t := by
  induction t generalizing a with
  | nil => rfl
  | cons c t ih =>
    have hc : c ≠ '/' := fun h => ht (h ▸ List.mem_cons_self ..)
    have hrest := ih fun h => ht (List.mem_cons_of_mem c h)
    have hquoted : Text.scriptString (c :: t) = Text.scriptChar c ++ Text.scriptString t := rfl
    rw [hquoted, awaitedFrom_cons (by decide), Mode.next_code hc]
    rcases Text.scriptChar_cases c with hkept | ⟨hbracket, hinert⟩
    · rw [hkept, List.singleton_append, awaitedFrom_cons (by decide), Mode.next_code hc]
      simp only [hrest]
    · rw [awaitedFrom_append, (hinert.expression a).awaited, (hinert.expression a).mode,
        await?_of_not_isBracket hbracket, Option.bind_some, Option.bind_some, hrest]

theorem Tidy.scriptString {t : Text} (h : Tidy t) : Tidy (Text.scriptString t) := by
  have hplain : ∀ c ∈ Text.scriptString t, c ∉ lineMarks := by
    intro c hc
    obtain ⟨d, hd, hcd⟩ := List.mem_flatMap.mp hc
    rcases Text.scriptChar_cases d with hkept | ⟨-, hinert⟩
    · rw [hkept, List.mem_singleton] at hcd
      exact hcd ▸ h.plain d hd
    · exact (hinert c hcd).2
  have hslash : '/' ∉ Text.scriptString t := fun hc => absurd (hplain _ hc) (by decide)
  refine Expression.tidy (fun a => ⟨modeAfter_code hslash, ?_⟩) hplain
  rw [awaitedFrom_scriptString h.slashless.no_slash, (h.expression a).awaited]

theorem Tidy.query {selector : Text} (h : Tidy selector) : Tidy (Locator.query selector) := by
  refine Expression.tidy (fun a => ?_) fun c hc => ?_
  · have hopen : Takes .code a "document.querySelector(\"" .code (')' :: a) := ⟨rfl, rfl⟩
    have hclose : Takes .code (')' :: a) "\")" .code a := ⟨rfl, rfl⟩
    exact (hopen.append (h.scriptString.expression _)).append hclose
  · have hlead : ∀ c ∈ ("document.querySelector(\"" : Text), c ∉ lineMarks := by decide
    have hend : ∀ c ∈ ("\")" : Text), c ∉ lineMarks := by decide
    rcases List.mem_append.mp hc with hc | hc
    · exact (List.mem_append.mp hc).elim (hlead c) (h.scriptString.plain c)
    · exact hend c hc

/-- What stands for an element is tidy. -/
theorem Tidy.resolve {f : Framework} {locators : Locators} {selector : Text} (h : Tidy selector)
    (hlocators : ∀ l ∈ locators.get? selector, Tidy l) :
    Tidy (Locator.resolve f locators selector) := by
  rw [Locator.resolve]
  split
  · exact h
  · cases hl : locators.get? selector with
    | none => exact h.query
    | some l => exact hlocators l hl

end Script

/-! ### Marks -/

namespace Text

/-- A quoted character is itself, or begins with a backslash. -/
theorem scriptChar_eq_or_backslash (c : Char) :
    scriptChar c = [c] ∨ ∃ escape, scriptChar c = '\\' :: escape := by
  unfold scriptChar
  iterate 8
    split
    · exact .inr ⟨_, rfl⟩
  exact .inl rfl

/-- What a quoted text begins with is no escape, and so is what the text begins with. -/
theorem isPrefix_of_isPrefix_scriptString {m t : Text} (hm : '\\' ∉ m) (h : m <+: scriptString t) :
    m <+: t := by
  induction m generalizing t with
  | nil => exact List.nil_prefix
  | cons c m ih =>
    cases t with
    | nil => exact absurd (List.prefix_nil.mp h) (List.cons_ne_nil c m)
    | cons d t =>
      have hquoted : scriptString (d :: t) = scriptChar d ++ scriptString t := rfl
      rw [hquoted] at h
      rcases scriptChar_eq_or_backslash d with hkept | ⟨escape, hescape⟩
      · rw [hkept, List.singleton_append, List.cons_prefix_cons] at h
        exact List.cons_prefix_cons.mpr ⟨h.1, ih (fun h' => hm (List.mem_cons_of_mem c h')) h.2⟩
      · rw [hescape, List.cons_append, List.cons_prefix_cons] at h
        exact absurd (h.1 ▸ List.mem_cons_self ..) hm

/-- What begins with a character that a text lacks does not begin in that text. -/
theorem isInfix_of_head_not_mem {c : Char} {m lead t : Text} (hc : c ∉ lead)
    (h : c :: m <:+: lead ++ t) : c :: m <:+: t := by
  rcases List.infix_append_iff.mp h with hlead | ht | ⟨front, rest, he, hfront, hrest⟩
  · exact absurd (hlead.mem (List.mem_cons_self ..)) hc
  · exact ht
  · cases front with
    | nil => exact he ▸ hrest.isInfix
    | cons d front =>
      obtain ⟨rfl, -⟩ := List.cons.inj he
      exact absurd (hfront.mem (List.mem_cons_self ..)) hc

/-- What ends with a character that a text lacks does not end in that text. -/
theorem isInfix_of_last_not_mem {c : Char} {m t rest : Text} (hc : c ∉ rest)
    (h : m ++ [c] <:+: t ++ rest) : m ++ [c] <:+: t := by
  rw [← List.reverse_infix, List.reverse_append] at h ⊢
  rw [List.reverse_append] at h
  exact isInfix_of_head_not_mem (by simpa using hc) h

/-- A mark in a quoted text is in the text. -/
theorem isInfix_of_isInfix_scriptString {m t : Text} (hm : '\\' ∉ '\x7b' :: m)
    (h : '\x7b' :: m <:+: scriptString t) : '\x7b' :: m <:+: t := by
  induction t with
  | nil => exact h
  | cons d t ih =>
    have hquoted : scriptString (d :: t) = scriptChar d ++ scriptString t := rfl
    rcases scriptChar_cases d with hkept | ⟨-, hinert⟩
    · rw [hquoted, hkept, List.singleton_append, List.infix_cons_iff] at h
      rcases h with hfront | hlater
      · have hwhole : '\x7b' :: m <+: scriptString (d :: t) := by
          rwa [hquoted, hkept, List.singleton_append]
        exact (isPrefix_of_isPrefix_scriptString hm hwhole).isInfix
      · exact List.infix_cons_iff.mpr (.inr (ih hlater))
    · have hbrace : '\x7b' ∉ scriptChar d := by
        intro hmem
        have hbracket : isBracket '\x7b' = true := by decide
        rw [(hinert '\x7b' hmem).1] at hbracket
        exact Bool.noConfusion hbracket
      rw [hquoted] at h
      have hlater : '\x7b' :: m <:+: scriptString t := isInfix_of_head_not_mem hbrace h
      exact List.infix_cons_iff.mpr (.inr (ih hlater))

end Text

/-- A mark stands between braces, with no backslash. -/
theorem Placeholder.exists_mark (p : Placeholder) :
    '\\' ∉ p.mark ∧ ∃ name : Text, p.mark = '\x7b' :: (name ++ ['\x7d']) := by
  cases p with
  | locator => exact ⟨by decide, "locator", rfl⟩
  | selector => exact ⟨by decide, "selector", rfl⟩
  | value => exact ⟨by decide, "value", rfl⟩

/-- A mark in a look-up is in its selector. -/
theorem Locator.isInfix_of_isInfix_query {p : Placeholder} {selector : Text}
    (h : p.mark <:+: query selector) : p.mark <:+: selector := by
  obtain ⟨hbackslash, name, hmark⟩ := p.exists_mark
  rw [hmark] at h hbackslash ⊢
  have hlast : '\x7d' ∉ ("\")" : Text) := by decide
  have hlead : '\x7b' ∉ ("document.querySelector(\"" : Text) := by decide
  have hbefore : ('\x7b' :: name) ++ ['\x7d'] <:+:
      "document.querySelector(\"" ++ Text.scriptString selector :=
    Text.isInfix_of_last_not_mem hlast h
  have hwithin : '\x7b' :: (name ++ ['\x7d']) <:+: Text.scriptString selector :=
    Text.isInfix_of_head_not_mem hlead hbefore
  exact Text.isInfix_of_isInfix_scriptString hbackslash hwithin

end Cuesheet
