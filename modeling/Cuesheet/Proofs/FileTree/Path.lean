import Cuesheet.FileTree.Path

/-!
The path to a name in a directory.

A slash between two texts cuts the pieces of the one from the pieces of the other
(`pieces_append_slash`), so the path to a name in a directory goes the steps to the directory and then
the name, whether or not the directory was written with a slash at its end (`ofText_join`).
-/

namespace Cuesheet.Path

/-! ### Pieces between slashes -/

theorem pieces_slash (t : Text) : pieces ('/' :: t) = [] :: pieces t := rfl

theorem pieces_ne_nil (t : Text) : pieces t ≠ [] := by
  fun_cases pieces t <;> simp

/-- A character other than a slash belongs to the first piece of the rest. -/
theorem exists_pieces_cons {c : Char} (hc : c ≠ '/') (t : Text) :
    ∃ p ps, pieces t = p :: ps ∧ pieces (c :: t) = (c :: p) :: ps := by
  obtain ⟨p, ps, hp⟩ := List.exists_cons_of_ne_nil (pieces_ne_nil t)
  refine ⟨p, ps, hp, ?_⟩
  rw [pieces, hp]
  exact hc

theorem pieces_append_slash (a b : Text) : pieces (a ++ '/' :: b) = pieces a ++ pieces b := by
  induction a with
  | nil => rfl
  | cons c a ih =>
    rw [List.cons_append]
    by_cases hc : c = '/'
    · rw [hc, pieces_slash, pieces_slash, ih, List.cons_append]
    · obtain ⟨p, ps, hp, hcons⟩ := exists_pieces_cons hc a
      obtain ⟨q, qs, hq, hcons'⟩ := exists_pieces_cons hc (a ++ '/' :: b)
      rw [ih, hp, List.cons_append] at hq
      obtain ⟨rfl, rfl⟩ := List.cons.inj hq
      rw [hcons, hcons', List.cons_append]

theorem pieces_of_not_mem {t : Text} (h : '/' ∉ t) : pieces t = [t] := by
  induction t with
  | nil => rfl
  | cons c t ih =>
    have hc : c ≠ '/' := fun heq => h (heq ▸ List.mem_cons_self ..)
    obtain ⟨p, ps, hp, hcons⟩ := exists_pieces_cons hc t
    rw [ih fun ht => h (List.mem_cons_of_mem c ht)] at hp
    obtain ⟨rfl, rfl⟩ := List.cons.inj hp
    exact hcons

/-! ### A name in a directory -/

/-- A text that can name a file in a directory. -/
structure IsName (name : Text) : Prop where
  ne_nil : name ≠ []
  slash_not_mem : '/' ∉ name
  ne_here : name ≠ here
  ne_back : name ≠ back

theorem exists_join (directory name : Text) : ∃ d, join directory name = d ++ '/' :: name ∧
    (directory = d ++ ['/'] ∨ directory = d) := by
  rw [join]
  split
  · rename_i hlast
    obtain ⟨d, hd⟩ := List.getLast?_eq_some_iff.mp hlast
    exact ⟨d, by rw [hd, List.append_assoc]; rfl, .inl hd⟩
  · exact ⟨directory, by rw [List.append_assoc]; rfl, .inr rfl⟩

/-- The path to a name in a directory leads to the directory and then to the name. -/
theorem ofText_join {directory name : Text} (hd : directory ≠ []) (hn : IsName name) :
    ofText (join directory name) =
      ⟨(ofText directory).isAbsolute, (ofText directory).steps ++ [name], false⟩ := by
  obtain ⟨d, hjoin, hdir⟩ := exists_join directory name
  have hhead : (d ++ '/' :: name).head? = directory.head? := by
    rcases hdir with rfl | rfl
    · simp
    · cases directory with
      | nil => exact absurd rfl hd
      | cons c directory => rfl
  have hsteps : (pieces d).filter (· ≠ []) = (pieces directory).filter (· ≠ []) := by
    rcases hdir with rfl | rfl
    · rw [pieces_append_slash, List.filter_append]
      exact (List.append_nil _).symm
    · rfl
  have hlast : (d ++ '/' :: name).getLast? ≠ some '/' := by
    rw [List.getLast?_append, List.getLast?_cons, List.getLast?_eq_some_getLast hn.ne_nil]
    intro h
    exact hn.slash_not_mem (Option.some.inj h ▸ List.getLast_mem hn.ne_nil)
  rw [hjoin, ofText, ofText, hhead, pieces_append_slash, pieces_of_not_mem hn.slash_not_mem,
    List.filter_append, hsteps, decide_eq_false hlast]
  simp [hn.ne_nil]

end Cuesheet.Path
