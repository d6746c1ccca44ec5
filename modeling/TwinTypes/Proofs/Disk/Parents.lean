import TwinTypes.Proofs.Disk.Walk
import TwinTypes.Run.Write

/-!
# The directory of a path

A path whose last component is a name denotes what has that name in the directory in which the path
is written (`TwinTypes.placeOf_fileName`). The letters of the path need not show this: pieces that
say nothing may stand behind the name, and between it and what comes before. They lead nowhere
(`TwinTypes.Path.place_dropIdle`), and that is why leaving them out does not change the place.
-/

namespace TwinTypes

open Disk (bareSteps move origin place placeOf place_cons place_nil)

namespace Path

/-- What is left of pieces does not begin with one that says nothing. -/
theorem isIdle_of_dropIdle {xs before : List String} {piece : String}
    (h : dropIdle xs = piece :: before) : isIdle before.isEmpty piece = false := by
  induction xs with
  | nil => cases h
  | cons x xs ih =>
    cases xs with
    | nil =>
      rw [dropIdle] at h
      split at h
      · cases h
      · rename_i hidle
        cases h
        simpa using hidle
    | cons y ys =>
      rw [dropIdle] at h
      split at h
      · exact ih h
      · rename_i hidle
        cases h
        simpa using hidle
      · simp

/-- What is left out at the end of pieces is empty or a dot. -/
theorem exists_dropIdle (xs : List String) :
    ∃ idle, xs = idle ++ dropIdle xs ∧ ∀ piece ∈ idle, piece = "" ∨ piece = "." := by
  have hidle : ∀ {first piece}, isIdle first piece = true → piece = "" ∨ piece = "." := by
    intro first piece h
    rw [isIdle, Bool.or_eq_true, Bool.and_eq_true] at h
    exact h.imp String.isEmpty_iff.mp fun hdot => eq_of_beq hdot.1
  induction xs with
  | nil => exact ⟨[], rfl, by simp⟩
  | cons x xs ih =>
    cases xs with
    | nil =>
      rw [dropIdle]
      split
      · rename_i h
        exact ⟨[x], rfl, by simpa using hidle h⟩
      · exact ⟨[], rfl, by simp⟩
    | cons y ys =>
      rw [dropIdle]
      split
      · rename_i h
        obtain ⟨idle, hxs, hall⟩ := ih
        refine ⟨x :: idle, by rw [List.cons_append, ← hxs], fun piece hmem => ?_⟩
        rcases List.mem_cons.mp hmem with rfl | hmem
        · exact hidle h
        · exact hall piece hmem
      · exact ⟨[], rfl, by simp⟩
      · simp

/-- What is left of pieces has nothing to leave out. -/
theorem dropIdle_dropIdle (xs : List String) : dropIdle (dropIdle xs) = dropIdle xs := by
  cases h : dropIdle xs with
  | nil => rfl
  | cons piece before =>
    have hidle := isIdle_of_dropIdle h
    cases before with
    | nil =>
      rw [dropIdle, if_neg]
      simpa using hidle
    | cons y ys =>
      rw [dropIdle, if_neg]
      · simpa using hidle
      · simp

/-- Whether a piece leads anywhere. -/
def isSolid (piece : String) : Bool :=
  !piece.isEmpty && piece != "."

/-- A piece that says nothing leads nowhere. -/
theorem isSolid_of_isIdle {first : Bool} {piece : String} (h : isIdle first piece = true) :
    isSolid piece = false := by
  rw [isIdle, Bool.or_eq_true, Bool.and_eq_true] at h
  rcases h with hempty | ⟨hdot, -⟩
  · simp [isSolid, hempty]
  · simp [isSolid, eq_of_beq hdot]

/-- **Pieces that say nothing lead nowhere**, so those at the end can be left out. -/
theorem filter_dropIdle (xs : List String) : (dropIdle xs).filter isSolid = xs.filter isSolid := by
  induction xs with
  | nil => rfl
  | cons x xs ih =>
    cases xs with
    | nil =>
      rw [dropIdle]
      split
      · rename_i hidle
        simp [isSolid_of_isIdle hidle]
      · rfl
    | cons y ys =>
      rw [dropIdle]
      split
      · rename_i hidle
        have hrest : (x :: y :: ys).filter isSolid = (y :: ys).filter isSolid :=
          List.filter_cons_of_neg (by simp [isSolid_of_isIdle hidle])
        rw [ih, hrest]
      · rfl
      · simp

/-- A piece that leads somewhere is not empty. -/
theorem filter_filter_isSolid (names : List String) :
    (names.filter fun p => !p.isEmpty).filter isSolid = names.filter isSolid := by
  rw [List.filter_filter]
  congr 1
  funext piece
  cases hempty : piece.isEmpty <;> simp [isSolid, hempty]

theorem mem_pieces_of_reversedPieces {path name : String} {before : List String}
    (h : reversedPieces path = name :: before) : name ∈ pieces path :=
  List.mem_reverse.mp ((reversedPieces_suffix path).subset (h ▸ List.mem_cons_self))

/-- The pieces of a path that ends with a name. -/
theorem of_fileName {path name : String} (h : fileName path = some name) :
    ∃ before, reversedPieces path = name :: before ∧ IsSegment name := by
  unfold fileName at h
  split at h
  · cases h
  · rename_i last before hback
    split at h
    · cases h
    · rename_i hdots
      cases h
      have hidle := isIdle_of_dropIdle hback
      simp only [isIdle, Bool.or_eq_false_iff, String.isEmpty_eq_false_iff] at hidle
      exact ⟨before, hback, hidle.1, fun hdot => hdots (Or.inl hdot),
        fun hup => hdots (Or.inr hup),
        slash_notMem_of_mem_pieces (mem_pieces_of_reversedPieces hback)⟩

end Path

open TwinTypes.Path (dropIdle fileName isAbsolute ofReversed pieces)

/-- The names that lead anywhere decide the place. -/
theorem Path.place_filter_isSolid {names : List String} (h : ∀ name ∈ names, name ≠ "")
    (here : Location) : place here (names.filter Path.isSolid) = place here names := by
  induction names generalizing here with
  | nil => rfl
  | cons name rest ih =>
    have hrest := ih fun other hother => h other (List.mem_cons_of_mem _ hother)
    have hne : name ≠ "" := h name List.mem_cons_self
    by_cases hdot : name = "."
    · rw [List.filter_cons_of_neg (by simp [Path.isSolid, hdot]), hrest, place_cons, move,
        if_pos hdot]
    · rw [List.filter_cons_of_pos (by simp [Path.isSolid, hne, hdot]), place_cons, hrest,
        place_cons]

theorem Path.ne_empty_of_mem_bareSteps {path name : String} (h : name ∈ bareSteps path) :
    name ≠ "" := by
  simpa using (List.mem_filter.mp h).2

/-- **What is left of a path without its last piece** has the names that lead to that piece, and
begins at the same place. -/
theorem of_parentDir {path piece : String} {before : List String}
    (h : Path.reversedPieces path = piece :: before) :
    (bareSteps (parentDir path)).filter Path.isSolid = (before.filter Path.isSolid).reverse ∧
      isAbsolute (parentDir path) = isAbsolute path := by
  have hparent : Path.parent path = some (ofReversed (isAbsolute path) (dropIdle before)) := by
    rw [Path.parent, h]
  have hsuffix : dropIdle before <:+ (pieces path).reverse :=
    Path.dropIdle_suffix_of_cons (h ▸ Path.reversedPieces_suffix path)
  rw [parentDir, hparent, ← Path.filter_dropIdle before]
  dsimp only
  cases hleft : dropIdle before with
  | nil =>
    -- nothing is left but the root, or the directory in which the path begins
    cases habs : isAbsolute path with
    | true =>
      have hroot : bareSteps "/" = [] ∧ isAbsolute "/" = true := by decide
      simp [ofReversed, hroot]
    | false =>
      have hdot : (bareSteps ".").filter Path.isSolid = [] ∧ isAbsolute "." = false := by decide
      simp [ofReversed, hdot]
  | cons y ys =>
    rw [hleft] at hsuffix
    have hslash := Path.slash_notMem_of_suffix hsuffix
    have hsteps := Path.bareSteps_ofReversed (isAbsolute path) (by simp) hslash
    have hne : ofReversed (isAbsolute path) (y :: ys) ≠ "" :=
      Path.ofReversed_ne_empty _ (by simp) hslash (hleft ▸ Path.dropIdle_dropIdle before)
    simp only [String.isEmpty_eq_false_iff.mpr hne, Bool.false_eq_true, if_false]
    refine ⟨?_, (Path.of_ofReversed hsuffix hne).2⟩
    rw [hsteps, Path.filter_filter_isSolid, List.filter_reverse]

/-- **The names of a path that lead anywhere** are those of its directory, and its last name. -/
theorem filter_bareSteps_fileName {path name : String} (h : fileName path = some name) :
    (bareSteps path).filter Path.isSolid =
        (bareSteps (parentDir path)).filter Path.isSolid ++ [name] ∧
      ∀ cwd, origin cwd (parentDir path) = origin cwd path := by
  obtain ⟨before, hback, hname⟩ := Path.of_fileName h
  obtain ⟨hparent, habs⟩ := of_parentDir hback
  have hsolid : Path.isSolid name = true := by simp [Path.isSolid, hname.ne_empty, hname.ne_dot]
  have hpieces := Path.filter_dropIdle (pieces path).reverse
  rw [show dropIdle (pieces path).reverse = name :: before from hback,
    List.filter_cons_of_pos hsolid, List.filter_reverse] at hpieces
  refine ⟨?_, fun cwd => by rw [origin, origin, habs]⟩
  rw [hparent, bareSteps, Path.filter_filter_isSolid, ← List.reverse_cons, hpieces,
    List.reverse_reverse]

/-- **What a path with a name at its end denotes** is what has that name in its directory. -/
theorem placeOf_fileName {cwd : Location} {path name : String} (h : fileName path = some name) :
    placeOf cwd path = placeOf cwd (parentDir path) ++ [name] := by
  obtain ⟨-, -, hname⟩ := Path.of_fileName h
  obtain ⟨hnames, horigin⟩ := filter_bareSteps_fileName h
  have hplace : ∀ p, placeOf cwd p = place (origin cwd p) ((bareSteps p).filter Path.isSolid) :=
    fun p => (Path.place_filter_isSolid (fun _ => Path.ne_empty_of_mem_bareSteps) _).symm
  rw [hplace, hplace, hnames, horigin, Disk.place_append, place_cons, place_nil,
    Disk.move_of_isSegment hname]

end TwinTypes
