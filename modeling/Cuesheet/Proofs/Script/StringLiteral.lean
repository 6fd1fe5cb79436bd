import Cuesheet.Locator
import Cuesheet.Proofs.Json.Quotation
import Cuesheet.Proofs.Script.CodeUnit
import Cuesheet.Proofs.Script.LineEnd

/-!
String literals of a script.

A literal between double quotes is read character by character: a backslash begins an escape, a double
quote ends the literal and the end of a line breaks it (`string?`). A text that was quoted for a script
is read back as it was, up to the quote that closes it and whatever follows (`says_scriptString`).
Nothing in a quoted text is a control character or ends a line, and every quote in it stands behind a
backslash that is not itself escaped.
-/

namespace Cuesheet.Script

/-- The value of the first `n` characters of a text as hexadecimal digits, behind digits with the
value `value`. -/
def hexFrom? (value : Nat) : (n : Nat) → Text → Option Nat
  | 0, _ => some value
  | _ + 1, [] => none
  | n + 1, c :: t => (Json.Quotation.hexValue? c).bind fun d => hexFrom? (16 * value + d) n t

/-- The letters that stand for a control character, with its code unit. -/
def namedUnits : List (Char × Nat) :=
  [('b', 0x8), ('t', 0x9), ('n', 0xA), ('v', 0xB), ('f', 0xC), ('r', 0xD)]

/-- What an escape stands for whose backslash has been read, and how many characters it takes. The end
of a line stands for nothing. Of the digits only a zero that no digit follows is an escape, and a
character without a meaning of its own stands for itself. -/
def escape? : Text → Option (List Nat × Nat)
  | [] => none
  | '\r' :: '\n' :: _ => some ([], 2)
  | c :: t =>
    if c ∈ lineEnds then some ([], 1)
    else if c = 'x' then (hexFrom? 0 2 t).map fun u => ([u], 3)
    else if c = 'u' then (hexFrom? 0 4 t).map fun u => ([u], 5)
    else if c = '0' && !(t.head?.any (·.isDigit)) then some ([0], 1)
    else if c.isDigit then none
    else some (((namedUnits.lookup c).map ([·])).getD (charUnits c), 1)

/-- The rest of a string literal, after `skip` more characters that belong to an escape already read:
the code units it stands for, and what follows its closing quote. -/
def stringFrom : (skip : Nat) → Text → Option (List Nat × Text)
  | _, [] => none
  | skip + 1, _ :: t => stringFrom skip t
  | 0, c :: t =>
    if c = '"' then some ([], t)
    else if c = '\\' then
      (escape? t).bind fun (us, taken) => prepend us (stringFrom taken t)
    else if c ∈ lineEnds then none
    else prepend (charUnits c) (stringFrom 0 t)

/-- The code units that the string literal at the front of a text stands for, and what follows it. -/
def string? : Text → Option (List Nat × Text)
  | '"' :: t => stringFrom 0 t
  | _ => none

/-- Between double quotes the body is a literal for a text, whatever follows. -/
def Says (body t : Text) : Prop :=
  ∀ rest, string? ('"' :: (body ++ '"' :: rest)) = some (units t, rest)

/-- A body says one text at most. -/
theorem Says.eq {body s t : Text} (hs : Says body s) (ht : Says body t) : s = t := by
  have hboth := (hs []).symm.trans (ht [])
  exact units_inj.mp (Prod.mk.inj (Option.some.inj hboth)).1

/-! ### Plain bodies -/

theorem stringFrom_plain {c : Char} (hquote : c ≠ '"') (hslash : c ≠ '\\') (hend : c ∉ lineEnds)
    (t : Text) : stringFrom 0 (c :: t) = prepend (charUnits c) (stringFrom 0 t) := by
  rw [stringFrom, if_neg hquote, if_neg hslash, if_neg hend]

/-- A text without quotes, backslashes and line ends says itself. -/
theorem says_self {t : Text} (h : ∀ c ∈ t, c ≠ '"' ∧ c ≠ '\\' ∧ c ∉ lineEnds) : Says t t := by
  intro rest
  rw [string?]
  induction t with
  | nil => rfl
  | cons c t ih =>
    obtain ⟨⟨hquote, hslash, hend⟩, ht⟩ := List.forall_mem_cons.mp h
    rw [List.cons_append, stringFrom_plain hquote hslash hend, ih ht]
    rfl

/-! ### Quoted texts -/

/-- The two digits of a control character name it. -/
theorem hexFrom?_hexPair {n : Nat} (h : n < 0x100) (t : Text) :
    hexFrom? 0 2 (Text.hexPair n ++ t) = some n := by
  have hhigh := Json.Quotation.hexValue?_digitChar (n / 16) (by omega)
  have hlow := Json.Quotation.hexValue?_digitChar (n % 16) (by omega)
  have hsum : 16 * (16 * 0 + n / 16) + n % 16 = n := by omega
  simp only [Text.hexPair, List.cons_append, List.nil_append, hexFrom?, hhigh, hlow,
    Option.bind_some, hsum]

theorem lt_of_isControl {c : Char} (h : Text.isControl c = true) : c.toNat < 0xA0 := by
  simp only [Text.isControl, Bool.or_eq_true, decide_eq_true_eq, Bool.and_eq_true] at h
  omega

theorem stringFrom_hex {c : Char} (h : Text.isControl c = true) (t : Text) :
    stringFrom 0 ('\\' :: 'x' :: (Text.hexPair c.toNat ++ t)) =
      prepend (charUnits c) (stringFrom 0 t) := by
  have hlt := lt_of_isControl h
  have hunits : charUnits c = [c.toNat] := if_pos (by omega)
  have hescape : escape? ('x' :: (Text.hexPair c.toNat ++ t)) = some ([c.toNat], 3) := by
    show (hexFrom? 0 2 (Text.hexPair c.toNat ++ t)).map _ = _
    rw [hexFrom?_hexPair (by omega), Option.map_some]
  rw [stringFrom, if_neg (by decide), if_pos rfl, hescape, hunits]
  rfl

/-- A quoted character is read as the character. -/
theorem stringFrom_scriptChar (c : Char) (t : Text) :
    stringFrom 0 (Text.scriptChar c ++ t) =
      prepend (charUnits c) (stringFrom 0 t) := by
  unfold Text.scriptChar
  iterate 7
    split
    · next h => subst h; rfl
  split
  next h => exact stringFrom_hex h t
  next hquote hslash hfeed hreturn _ hline hparagraph _ =>
    refine stringFrom_plain hquote hslash (fun hend => ?_) t
    simp only [lineEnds, List.mem_cons, List.not_mem_nil, or_false] at hend
    rcases hend with h | h | h | h
    · exact hfeed h
    · exact hreturn h
    · exact hline h
    · exact hparagraph h

/-- **A quoted text is read back as it was.** -/
theorem says_scriptString (t : Text) : Says (Text.scriptString t) t := by
  intro rest
  rw [string?]
  induction t with
  | nil => rfl
  | cons c t ih =>
    have hquoted : Text.scriptString (c :: t) = Text.scriptChar c ++ Text.scriptString t := rfl
    rw [hquoted, List.append_assoc, stringFrom_scriptChar, ih]
    rfl

theorem scriptString_inj {s t : Text} : Text.scriptString s = Text.scriptString t ↔ s = t :=
  ⟨fun h => (says_scriptString s).eq (h ▸ says_scriptString t), congrArg _⟩

/-! ### What a quoted text looks like -/

/-- A character that a quoted text may hold: neither a control character nor the end of a line. -/
def Printable (c : Char) : Prop := Text.isControl c = false ∧ c ∉ lineEnds

instance (c : Char) : Decidable (Printable c) := inferInstanceAs (Decidable (_ ∧ _))

theorem printable_hexPair : ∀ n < 0xA0, ∀ d ∈ Text.hexPair n, Printable d := by decide +kernel

theorem printable_of_mem_scriptChar {c d : Char} (h : d ∈ Text.scriptChar c) : Printable d := by
  unfold Text.scriptChar at h
  iterate 7
    split at h
    · revert d; decide
  split at h
  next hcontrol =>
    have hlead : ∀ d ∈ ("\\x" : Text), Printable d := by decide
    exact (List.mem_append.mp h).elim (hlead d) (printable_hexPair c.toNat (lt_of_isControl hcontrol) d)
  next hfeed hreturn _ hline hparagraph hcontrol =>
    obtain rfl := List.mem_singleton.mp h
    refine ⟨Bool.eq_false_iff.mpr hcontrol, ?_⟩
    simp [lineEnds, hfeed, hreturn, hline, hparagraph]

theorem printable_of_mem_scriptString {t : Text} {d : Char} (h : d ∈ Text.scriptString t) :
    Printable d := by
  obtain ⟨c, -, hd⟩ := List.mem_flatMap.mp h
  exact printable_of_mem_scriptChar hd

/-- How many backslashes a text ends with. -/
def trailingSlashes (t : Text) : Nat := (t.reverse.takeWhile (· = '\\')).length

/-- Every double quote in the text is escaped: it stands behind an odd number of backslashes. -/
def QuotesEscaped (t : Text) : Prop :=
  ∀ before after, t = before ++ '"' :: after → trailingSlashes before % 2 = 1

/-- The backslashes at an end go on before it only if there is nothing else in it. -/
theorem trailingSlashes_append (t u : Text) :
    trailingSlashes (t ++ u) =
      if trailingSlashes u = u.length then u.length + trailingSlashes t else trailingSlashes u := by
  have hwhole : (u.reverse.takeWhile (· = '\\')).length = trailingSlashes u := rfl
  rw [trailingSlashes, List.reverse_append, List.takeWhile_append, List.length_reverse, hwhole]
  split
  next => rw [List.length_append, List.length_reverse, trailingSlashes]
  next => exact hwhole

theorem trailingSlashes_hex : ∀ n < 0xA0, trailingSlashes ("\\x" ++ Text.hexPair n) = 0 := by
  decide +kernel

/-- A quoted character leaves no escape open. -/
theorem trailingSlashes_scriptChar (c : Char) : trailingSlashes (Text.scriptChar c) % 2 = 0 := by
  unfold Text.scriptChar
  iterate 7
    split
    · rfl
  split
  next h => rw [trailingSlashes_hex c.toNat (lt_of_isControl h)]
  next _ hslash _ _ _ _ _ _ => simp [trailingSlashes, hslash]

theorem quote_not_mem_hexPair : ∀ n < 0xA0, '"' ∉ Text.hexPair n := by decide +kernel

theorem eq_quote_of_mem_scriptChar {c : Char} (h : '"' ∈ Text.scriptChar c) : c = '"' := by
  unfold Text.scriptChar at h
  split at h
  next hc => exact hc
  iterate 6
    split at h
    · exact absurd h (by decide)
  split at h
  next hcontrol =>
    rcases List.mem_append.mp h with h | h
    · exact absurd h (by decide)
    · exact absurd h (quote_not_mem_hexPair c.toNat (lt_of_isControl hcontrol))
  next => exact (List.mem_singleton.mp h).symm

theorem quotesEscaped_scriptChar (c : Char) : QuotesEscaped (Text.scriptChar c) := by
  intro before after h
  obtain rfl := eq_quote_of_mem_scriptChar (h ▸ List.mem_append_right before (List.mem_cons_self ..))
  have hquote : Text.scriptChar '"' = ['\\', '"'] := rfl
  rw [hquote] at h
  match before, h with
  | [], h => exact absurd (List.cons.inj h).1 (by decide)
  | [c], h =>
    obtain rfl := (List.cons.inj h).1
    rfl
  | _ :: _ :: before, h => simp at h

/-- Every double quote in a quoted text is escaped. -/
theorem quotesEscaped_scriptString (t : Text) : QuotesEscaped (Text.scriptString t) := by
  intro before after h
  induction t generalizing before with
  | nil => exact absurd h (by simp [Text.scriptString])
  | cons c t ih =>
    have hquoted : Text.scriptString (c :: t) = Text.scriptChar c ++ Text.scriptString t := rfl
    rw [hquoted] at h
    rcases List.append_eq_append_iff.mp h with ⟨middle, rfl, hrest⟩ | ⟨middle, hchar, hrest⟩
    · have hodd := ih middle hrest
      have heven := trailingSlashes_scriptChar c
      rw [trailingSlashes_append]
      split
      next hall => omega
      next => exact hodd
    · cases middle with
      | nil => exact absurd (ih [] hrest.symm) (by decide)
      | cons d middle =>
        obtain ⟨rfl, -⟩ := List.cons.inj hrest
        exact quotesEscaped_scriptChar c before middle hchar

end Cuesheet.Script
