import Cuesheet.Proofs.Clause
import Cuesheet.Proofs.Instruction.Phrase
import Cuesheet.Proofs.Instruction.Reading

/-!
The form of what is read.

A clause is *normal* for a text if its conjunctions and disjunctions are as flat as they can be and
every text kept in it is a piece of that text. All that is read is normal for its instruction
(`read_normal`). That a part of a conjunction is no conjunction again follows from where conjunctions
come from: one is read only where "and" cuts the text (`Shape.conjunction`), and no part of a cut text
is cut again at the same word.
-/

namespace Cuesheet

/-- Some of the text, as it stands there. -/
def Piece (source p : Text) : Prop := p ≠ [] ∧ p <:+: source

theorem Piece.mono {source source' p : Text} (h : Piece source p) (hs : source <:+: source') :
    Piece source' p := ⟨h.1, h.2.trans hs⟩

namespace Clause

def IsConjunction (c : Clause) : Prop := ∃ parts, c = conjunction parts

def IsDisjunction (c : Clause) : Prop := ∃ parts, c = disjunction parts

/-- Flat conjunctions and disjunctions, of pieces of `source`, in every node of the clause. -/
inductive Normal (source : Text) : Clause → Prop where
  | compares {subject : Subject} {comparison : Comparison} {value : Text} :
      (∀ name, subject = .attribute name → Piece source name) → Piece source value →
      Normal source (predicate (.compares subject comparison value))
  | nthChild {n : Nat} : Normal source (predicate (.nthChild n))
  | conjunction {parts : List Clause} : 1 ≤ parts.length → (∀ c ∈ parts, Normal source c) →
      (∀ c ∈ parts, ¬ c.IsConjunction) → Normal source (conjunction parts)
  | disjunction {parts : List Clause} : 2 ≤ parts.length → (∀ c ∈ parts, Normal source c) →
      (∀ c ∈ parts, ¬ c.IsConjunction ∧ ¬ c.IsDisjunction) → Normal source (disjunction parts)
  | conditional {condition : Clause} {action : Option Clause} {wording : Text} :
      Normal source condition → (∀ c ∈ action, Normal source c) → Piece source wording →
      Normal source (conditional condition action wording)
  | wait {milliseconds : Nat} {what : Text} : Piece source what →
      Normal source (wait milliseconds what)
  | retryUntil {condition : Option Clause} {wording : Text} :
      (∀ c ∈ condition, Normal source c) → Piece source wording →
      Normal source (retryUntil condition wording)
  | report {message : Text} {condition : Option Clause} : Piece source message →
      (∀ c ∈ condition, Normal source c) → Normal source (report message condition)
  | onFailure {handler : Text} : Piece source handler → Normal source (onFailure handler)

/-- What is normal for a piece of a text is normal for the text. -/
theorem Normal.mono {source source' : Text} {c : Clause} (h : Normal source c)
    (hs : source <:+: source') : Normal source' c := by
  induction h with
  | compares hname hvalue => exact .compares (fun name hn => (hname name hn).mono hs) (hvalue.mono hs)
  | nthChild => exact .nthChild
  | conjunction hlen _ hflat ih => exact .conjunction hlen ih hflat
  | disjunction hlen _ hflat ih => exact .disjunction hlen ih hflat
  | conditional _ _ hwording ihc iha => exact .conditional ihc iha (hwording.mono hs)
  | wait hwhat => exact .wait (hwhat.mono hs)
  | retryUntil _ hwording ih => exact .retryUntil ih (hwording.mono hs)
  | report hmessage _ ih => exact .report (hmessage.mono hs) ih
  | onFailure hhandler => exact .onFailure (hhandler.mono hs)

end Clause

namespace Instruction

variable {t : Text}

/-! ### The pieces of phrases -/

theorem comparison?_piece {comparison : Comparison} {subject : Subject} {value : Text}
    (h : comparison? comparison t = some (subject, value)) :
    (∀ name, subject = .attribute name → Piece t name) ∧ Piece t value := by
  obtain ⟨u, v, rfl, hv⟩ := afterNames_eq_some h
  obtain ⟨hnamed, rest, hne, rfl, rfl⟩ := bareComparison?_eq_some hv
  constructor
  · rintro name rfl
    refine ⟨hnamed.ne_nil, u ++ "attribute ", " " ++ comparison.phrase ++ " " ++ rest, ?_⟩
    show _ = u ++ (("attribute " ++ name) ++ (" " ++ comparison.phrase ++ " " ++ rest))
    simp only [List.append_assoc]
  · obtain ⟨a, b, he, hne⟩ := exists_unquote hne
    refine ⟨hne, u ++ (subject.phrase ++ (" " ++ comparison.phrase ++ " " ++ a)), b, ?_⟩
    conv => rhs; rw [he]
    simp only [List.append_assoc]

theorem conditional?_piece {condition action : Text}
    (h : conditional? t = some (condition, action)) :
    condition <:+: t ∧ action ≠ [] ∧ action <:+ t := by
  obtain ⟨_, hne, rfl | rfl⟩ := conditional?_eq_some h
  · exact ⟨⟨"if ", ", then " ++ action, by simp only [List.append_assoc]⟩, hne,
      "if " ++ (condition ++ ", then "), by simp only [List.append_assoc]⟩
  · exact ⟨⟨"if ", " then " ++ action, by simp only [List.append_assoc]⟩, hne,
      "if " ++ (condition ++ " then "), by simp only [List.append_assoc]⟩

theorem report?_piece {message : Text} {condition : Option Text}
    (h : report? t = some (message, condition)) :
    Piece t message ∧ ∀ operand ∈ condition, operand <:+: t := by
  obtain ⟨hne, q, q', rest, _, _, rfl, hrest⟩ := report?_eq_some h
  refine ⟨⟨hne, "report " ++ [q], q' :: rest, by simp only [List.append_assoc, List.cons_append,
    List.nil_append]⟩, ?_⟩
  rintro operand hoperand
  rcases hrest with ⟨rfl, _⟩ | ⟨operand', rfl, rfl, _⟩
  · exact absurd hoperand (by simp)
  · obtain rfl := Option.some.inj hoperand
    refine ⟨"report " ++ q :: (message ++ q' :: " if "), [], ?_⟩
    simp only [List.append_assoc, List.cons_append, List.append_nil]

/-- The last piece of a phrase is kept without its outer blanks. -/
theorem Ready.piece_trim (h : Ready t) {s : Text} (hs : s <:+ t) (hne : s ≠ []) :
    Piece t (Text.trim s) :=
  ⟨Text.trim_ne_nil_of_suffix h.trimmed hs hne, (Text.trim_isInfix s).trans hs.isInfix⟩

/-! ### Reading -/

/-- A clause as it is read of a text: normal, and cut at a word where it has parts. -/
structure Shape (t : Text) (c : Clause) : Prop where
  normal : c.Normal t
  conjunction : c.IsConjunction → splitAt? "and" t ≠ none
  disjunction : c.IsDisjunction → splitAt? "or" t ≠ none

/-- A clause that has no parts to cut the text for. -/
theorem Shape.of_other {c : Clause} (h : c.Normal t)
    (hother : ∀ parts, c ≠ .conjunction parts ∧ c ≠ .disjunction parts) : Shape t c :=
  ⟨h, fun ⟨parts, hc⟩ => absurd hc (hother parts).1, fun ⟨parts, hd⟩ => absurd hd (hother parts).2⟩

/-- What is read of a piece of a text is normal for the text. -/
theorem Shape.normal_of_isInfix {s : Text} {c : Clause} (hready : Ready t) (hs : s <:+: t)
    (h : Shape (Text.lower (Text.trim s)) c) : c.Normal t := by
  have hnormal := h.normal
  rw [hready.lower_trim hs] at hnormal
  exact hnormal.mono ((Text.trim_isInfix s).trans hs)

/-- A part that "and" does not cut is no conjunction. -/
theorem Shape.not_conjunction {s : Text} {c : Clause} (hready : Ready t) (hs : s <:+: t)
    (h : Shape (Text.lower (Text.trim s)) c) (hu : Uncut "and" s) : ¬ c.IsConjunction := by
  intro hc
  apply h.conjunction hc
  rw [hready.lower_trim hs]
  exact (splitAt?_eq_none_iff joint_and).mpr hu.trim

/-- A part that "or" does not cut is no disjunction. -/
theorem Shape.not_disjunction {s : Text} {c : Clause} (hready : Ready t) (hs : s <:+: t)
    (h : Shape (Text.lower (Text.trim s)) c) (hu : Uncut "or" s) : ¬ c.IsDisjunction := by
  intro hc
  apply h.disjunction hc
  rw [hready.lower_trim hs]
  exact (splitAt?_eq_none_iff joint_or).mpr hu.trim

/-- **A claim keeps the shape of its operands.** -/
theorem shape_of_says {reader : Text → Option Clause} {p : Pattern} {c : Clause}
    (hready : Ready t) (hread : ∀ s d, reader s = some d → Shape (Text.lower (Text.trim s)) d)
    (hand : p ≠ .conjunction → splitAt? "and" t = none) (h : Says reader t p c) : Shape t c := by
  have hpart : ∀ {word : Text} {parts : List Text}, Joint word → splitAt? word t = some parts →
      ∀ d ∈ parts.filterMap reader,
        ∃ u s v, Part word t u s v ∧ Shape (Text.lower (Text.trim s)) d := by
    intro word parts hw hsplit d hd
    obtain ⟨s, hs, hsd⟩ := List.mem_filterMap.mp hd
    obtain ⟨u, v, hcut⟩ := part_of_mem_splitAt? hw hsplit hs
    exact ⟨u, s, v, hcut, hread s d hsd⟩
  have hnormal : ∀ {s : Text}, s <:+: t → ∀ d ∈ reader s, d.Normal t :=
    fun hs d hd => (hread _ d hd).normal_of_isInfix hready hs
  cases h with
  | conjunction hsplit hne =>
    refine ⟨.conjunction (List.length_pos_iff.mpr hne) (fun d hd => ?_) (fun d hd => ?_),
      fun _ => by rw [hsplit]; exact Option.some_ne_none _, fun ⟨_, hd⟩ => Clause.noConfusion hd⟩
    · obtain ⟨u, s, v, hcut, hshape⟩ := hpart joint_and hsplit d hd
      exact hshape.normal_of_isInfix hready hcut.isInfix
    · obtain ⟨u, s, v, hcut, hshape⟩ := hpart joint_and hsplit d hd
      exact hshape.not_conjunction hready hcut.isInfix (hcut.uncut joint_and)
  | disjunction hsplit hlen =>
    have hwhole : Uncut "and" t :=
      (splitAt?_eq_none_iff joint_and).mp (hand (by simp))
    refine ⟨.disjunction hlen (fun d hd => ?_) (fun d hd => ?_),
      fun ⟨_, hc⟩ => Clause.noConfusion hc, fun _ => by rw [hsplit]; exact Option.some_ne_none _⟩
    · obtain ⟨u, s, v, hcut, hshape⟩ := hpart joint_or hsplit d hd
      exact hshape.normal_of_isInfix hready hcut.isInfix
    · obtain ⟨u, s, v, hcut, hshape⟩ := hpart joint_or hsplit d hd
      exact ⟨hshape.not_conjunction hready hcut.isInfix (hcut.uncut_of_uncut joint_or hwhole),
        hshape.not_disjunction hready hcut.isInfix (hcut.uncut joint_or)⟩
  | check hfind =>
    obtain ⟨hname, hvalue⟩ := comparison?_piece hfind
    exact .of_other (.compares hname hvalue) (by simp)
  | nthChild => exact .of_other .nthChild (by simp)
  | conditional hfind hd =>
    obtain ⟨hc, hne, ha⟩ := conditional?_piece hfind
    have haction := hnormal ((Text.trim_isInfix _).trans ha.isInfix)
    exact .of_other (.conditional (hnormal hc _ hd) haction (hready.piece_trim ha hne)) (by simp)
  | wait hfind =>
    obtain ⟨hne, hwhat⟩ := wait?_eq_some hfind
    exact .of_other (.wait (hready.piece_trim hwhat hne)) (by simp)
  | retryUntil hfind =>
    obtain ⟨he, hne⟩ := retryUntil?_eq_some hfind
    have hs : _ <:+ t := ⟨_, he.symm⟩
    have hcondition := hnormal ((Text.trim_isInfix _).trans hs.isInfix)
    exact .of_other (.retryUntil hcondition (hready.piece_trim hs hne)) (by simp)
  | report hfind => exact .of_other (.report (report?_piece hfind).1 (by simp)) (by simp)
  | guardedReport hfind hd =>
    obtain ⟨hmessage, hoperand⟩ := report?_piece hfind
    refine .of_other (.report hmessage fun c hc => ?_) (by simp)
    obtain rfl := Option.some.inj hc
    exact hnormal (hoperand _ rfl) _ hd
  | onFailure hfind =>
    obtain ⟨he, hne⟩ := onFailure?_eq_some hfind
    have hs : _ <:+ t := he.elim (fun he => ⟨_, he.symm⟩) (fun he => ⟨_, he.symm⟩)
    exact .of_other (.onFailure (hready.piece_trim hs hne)) (by simp)

/-- **All that is read is normal for its instruction.** -/
theorem read_normal {ceiling : Nat} {x : Text} {c : Clause} (h : read ceiling x = some c) :
    c.Normal (Text.lower (Text.trim x)) := by
  have hshape : Shape (Text.lower (Text.trim x)) c :=
    read_induction (fun reader t d p hready hread hand hp =>
      shape_of_says hready hread hand (says_of_claim hp)) h
  exact hshape.normal

/-- A disjunction may stand in a conjunction, and the pieces are in lower case. -/
theorem read_normal_disjunction_in_conjunction :
    let c : Clause := .conjunction [.disjunction [.predicate (.compares .text .endsWith "a"),
      .predicate (.compares .value .startsWith "b")],
      .report "c" (some (.predicate (.compares .text .endsWith "d")))]
    read 3 " Text ends with 'A' or value starts with 'b' AND report 'C' if text ends with 'd' " =
        some c ∧
      c.Normal "text ends with 'a' or value starts with 'b' and report 'c' if text ends with 'd'" := by
  intro c
  have hread : read 3
      " Text ends with 'A' or value starts with 'b' AND report 'C' if text ends with 'd' " = some c := by
    decide +kernel
  have hlower : Text.lower (Text.trim
      " Text ends with 'A' or value starts with 'b' AND report 'C' if text ends with 'd' ") =
      "text ends with 'a' or value starts with 'b' and report 'c' if text ends with 'd'" := by
    decide +kernel
  exact ⟨hread, hlower ▸ read_normal hread⟩

end Instruction

end Cuesheet
