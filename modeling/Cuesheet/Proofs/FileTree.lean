import Cuesheet.FileTree
import Cuesheet.Proofs.FileTree.Path
import Cuesheet.Proofs.Outcome

/-!
What changes do to a tree of files.

Making directories can only add directories where nothing was (`Grown`), whether it succeeds or fails
on the way, and a path that could be followed before leads to the same place after it. Writing a file
changes its place alone (`write_cases`), and no path is led elsewhere by it.
-/

namespace Cuesheet.FileTree

variable {t t' t'' : FileTree}

/-! ### Entries -/

theorem entry?_root (t : FileTree) : t.entry? [] = some .directory := rfl

theorem entry?_of_ne {place : Place} (h : place ≠ []) (t : FileTree) :
    t.entry? place = t.entries.get? place := if_neg h

theorem entry?_put_self {place : Place} (h : place ≠ []) (t : FileTree) (e : FileEntry) :
    entry? (t.put place e) place = some e :=
  (entry?_of_ne h _).trans (Dictionary.get?_insert_self ..)

theorem entry?_put_of_ne {place other : Place} (h : other ≠ place) (t : FileTree) (e : FileEntry) :
    entry? (t.put place e) other = t.entry? other := by
  by_cases hroot : other = []
  · rw [hroot, entry?_root, entry?_root]
  · rw [entry?_of_ne hroot, entry?_of_ne hroot]
    exact Dictionary.get?_insert_of_ne _ h e

/-! ### Directories that are added -/

/-- What was at a place is there still, or a directory came where nothing was. -/
def Keeps (before after : FileTree) (place : Place) : Prop :=
  after.entry? place = before.entry? place ∨
    before.entry? place = none ∧ after.entry? place = some .directory

theorem Keeps.trans {place : Place} (h : Keeps t t' place) (h' : Keeps t' t'' place) :
    Keeps t t'' place := by
  rcases h with hsame | ⟨hnone, hdir⟩ <;> rcases h' with hsame' | ⟨hnone', hdir'⟩
  · exact .inl (hsame'.trans hsame)
  · exact .inr ⟨hsame ▸ hnone', hdir'⟩
  · exact .inr ⟨hnone, hsame'.trans hdir⟩
  · rw [hdir] at hnone'
    cases hnone'

theorem Keeps.found {place : Place} {e : FileEntry} (h : Keeps t t' place)
    (he : t.entry? place = some e) : t'.entry? place = some e := by
  rcases h with hsame | ⟨hnone, -⟩
  · rw [hsame, he]
  · rw [he] at hnone
    cases hnone

/-- A tree with some directories more. -/
structure Grown (before after : FileTree) : Prop where
  current : after.current = before.current
  keeps : ∀ place, Keeps before after place

theorem Grown.refl (t : FileTree) : Grown t t := ⟨rfl, fun _ => .inl rfl⟩

theorem Grown.trans (h : Grown t t') (h' : Grown t' t'') : Grown t t'' :=
  ⟨h'.current.trans h.current, fun place => (h.keeps place).trans (h'.keeps place)⟩

instance : Std.Refl Grown := ⟨Grown.refl⟩
instance : Trans Grown Grown Grown := ⟨Grown.trans⟩

theorem Grown.put {place : Place} (h : t.entry? place = none) : Grown t (t.put place .directory) where
  current := rfl
  keeps other := by
    by_cases ho : other = place
    · have hroot : place ≠ [] := fun hr => by simp [hr, entry?_root] at h
      exact .inr ⟨ho ▸ h, ho ▸ entry?_put_self hroot t .directory⟩
    · exact .inl (entry?_put_of_ne ho t .directory)

/-! ### Ways through directories -/

theorem enter_eq_ok_iff {place next : Place} {step : Text} :
    t.enter place step = .ok next ↔ t.entry? place = some .directory ∧
      next = if step = Path.here then place
        else if step = Path.back then place.dropLast else place ++ [step] := by
  rw [enter]
  split
  · simp [*]
  · simp [*]
  · simp only [*, true_and]
    split
    · simp [eq_comm]
    · split <;> simp [eq_comm]

/-- A way through directories is the same in every tree that has these. -/
theorem follow_congr {place last : Place} {steps : List Text}
    (hdir : ∀ p, t.entry? p = some .directory → t'.entry? p = some .directory)
    (h : t.follow place steps = .ok last) : t'.follow place steps = .ok last := by
  induction steps generalizing place with
  | nil => exact h
  | cons step steps ih =>
    rw [follow] at h
    obtain ⟨next, hnext, hrest⟩ := bind_eq_ok_iff.mp h
    have hnext' : t'.enter place step = .ok next :=
      have ⟨hplace, hstep⟩ := enter_eq_ok_iff.mp hnext
      enter_eq_ok_iff.mpr ⟨hdir place hplace, hstep⟩
    rw [follow, hnext']
    exact ih hrest

theorem locate_congr {p : Path} {last : Place} (hcurrent : t'.current = t.current)
    (hdir : ∀ p, t.entry? p = some .directory → t'.entry? p = some .directory)
    (h : t.locate p = .ok last) : t'.locate p = .ok last := by
  rw [locate, start, hcurrent]
  exact follow_congr hdir h

theorem Grown.locate {p : Path} {place : Place} (h : Grown t t') (hp : t.locate p = .ok place) :
    t'.locate p = .ok place :=
  locate_congr h.current (fun p => (h.keeps p).found) hp

theorem follow_append {place middle : Place} {steps : List Text}
    (h : t.follow place steps = .ok middle) (more : List Text) :
    t.follow place (steps ++ more) = t.follow middle more := by
  induction steps generalizing place with
  | nil =>
    cases h
    rfl
  | cons step steps ih =>
    rw [follow] at h
    obtain ⟨next, hnext, hrest⟩ := bind_eq_ok_iff.mp h
    rw [List.cons_append, follow, hnext]
    exact ih hrest

theorem isDirectory_eq_true_iff {p : Path} :
    t.isDirectory p = true ↔ ∃ place, t.locate p = .ok place ∧ t.entry? place = some .directory := by
  rw [isDirectory]
  cases t.locate p <;> simp

/-- The way to a name in a directory. -/
theorem locate_join {directory name : Text} {place : Place} (hd : directory ≠ [])
    (hn : Path.IsName name) (h : t.locate (.ofText directory) = .ok place)
    (hdir : t.entry? place = some .directory) :
    t.locate (.ofText (Path.join directory name)) = .ok (place ++ [name]) := by
  have henter : t.enter place name = .ok (place ++ [name]) :=
    enter_eq_ok_iff.mpr ⟨hdir, by rw [if_neg hn.ne_here, if_neg hn.ne_back]⟩
  have hlast : t.follow place [name] = .ok (place ++ [name]) := by
    rw [follow, henter]
    rfl
  rw [Path.ofText_join hd hn]
  exact (follow_append h [name]).trans hlast

/-! ### Making directories -/

theorem moves_makeDirectory (p : Path) : Moves Grown (makeDirectory p) := by
  intro t
  rw [makeDirectory, run_get_bind]
  cases hp : t.locate p with
  | error e => exact Grown.refl t
  | ok place =>
    rw [makeDirectory.liftExcept, pure_bind]
    cases he : t.entry? place with
    | none => exact Grown.put he
    | some e => exact Grown.refl t

theorem moves_makeAlong (isAbsolute : Bool) (reversed : List Text) :
    Moves Grown (makeAlong isAbsolute reversed) := by
  induction reversed with
  | nil => exact Moves.pure ()
  | cons step outer ih =>
    -- A directory that is there already is taken as made.
    have hsettle (p : Path) (e : FileError) : Moves Grown (do
        if (← get).isDirectory p then return else throw e : Change Unit) :=
      Moves.get_bind fun t => by
        split
        · exact Moves.pure ()
        · exact Moves.throw e
    refine Moves.tryCatch (moves_makeDirectory _) fun e => ?_
    cases e with
    | notFound =>
      exact Moves.bind ih fun _ => Moves.tryCatch (moves_makeDirectory _) fun e => hsettle _ e
    | isADirectory | notADirectory | alreadyExists | invalidData => exact hsettle _ _

/-- Making directories can only add directories. -/
theorem moves_makeDirectories (p : Path) : Moves Grown (makeDirectories p) :=
  moves_makeAlong p.isAbsolute p.steps.reverse

/-! ### Writing a file -/

/-- A tree with one file written, and perhaps with some directories more. -/
structure Saved (before after : FileTree) (place : Place) (text : Text) : Prop where
  current : after.current = before.current
  written : after.entry? place = some (.file (some text))
  /-- There was a file before, or nothing. -/
  free : before.entry? place ≠ some .directory
  others : ∀ other ≠ place, Keeps before after other

theorem Grown.saved {place : Place} {text : Text} (h : Grown t t') (h' : Saved t' t'' place text) :
    Saved t t'' place text where
  current := h'.current.trans h.current
  written := h'.written
  free hdir := h'.free ((h.keeps place).found hdir)
  others other ho := (h.keeps other).trans (h'.others other ho)

theorem saved_put {place : Place} (h : t.entry? place ≠ some .directory) (text : Text) :
    Saved t (t.put place (.file (some text))) place text where
  current := rfl
  written := entry?_put_self (fun hr => h (by rw [hr, entry?_root])) t _
  free := h
  others other ho := .inl (entry?_put_of_ne ho t _)

theorem Saved.locate {p : Path} {place last : Place} {text : Text} (h : Saved t t' place text)
    (hp : t.locate p = .ok last) : t'.locate p = .ok last := by
  refine locate_congr h.current (fun q hq => ?_) hp
  -- Nothing is written where the way passes.
  have hne : q ≠ place := fun heq => h.free (heq ▸ hq)
  exact (h.others q hne).found hq

theorem Saved.read {p : Path} {place : Place} {text : Text} (h : Saved t t' place text)
    (hp : t'.locate p = .ok place) (hfile : p.asksDirectory = false) : t'.read p = .ok text := by
  rw [FileTree.read, hp, ok_bind, h.written, hfile]
  rfl

/-- Writing fails and changes nothing, or it saves the text at the place that the path leads to. -/
theorem write_cases (p : Path) (text : Text) (t : FileTree) :
    (∃ e, (write p text).run.run t = (.error e, t)) ∨
      ∃ t' place, (write p text).run.run t = (.ok (), t') ∧ t.locate p = .ok place ∧
        p.asksDirectory = false ∧ Saved t t' place text := by
  rw [write, run_get_bind]
  cases hp : t.locate p with
  | error e => exact .inl ⟨e, rfl⟩
  | ok place =>
    cases hasks : p.asksDirectory with
    | true => exact .inl ⟨.isADirectory, rfl⟩
    | false =>
      by_cases hdir : t.entry? place = some .directory
      · exact .inl ⟨.isADirectory, by simp only [hdir]; rfl⟩
      · exact .inr ⟨_, place, by simp [hdir, run_set], rfl, rfl, saved_put hdir text⟩

end Cuesheet.FileTree
