import TwinTypes.Proofs.Disk.Parents
import TwinTypes.Proofs.Disk.Success

/-!
# Paths at which a directory can be made

A path is passable (`TwinTypes.Disk.Passable`) if no file stands on the way that it takes and its
letters can be followed. Nothing need stand on the way: what is missing is what is to be made. The
load-bearing statement is `IsTree.makeDir_of_passable`: on a tree a single directory at such a path
is made, or is there, or something is missing before it – and only the last of these is a reason to
go on to the path before.

That path is the one without the last name. Between the two there may be dots, which lead nowhere
(`Path.exists_dropIdle`), so once the path before leads to a directory nothing is missing any more
(`Passable.open_of_before`).
-/

namespace TwinTypes

open Disk (bareSteps origin place placeOf place_append)

namespace Disk

variable {d d' : Disk} {cwd here : Location} {path : String} {names : List String}

/-! ### Clear ways -/

/-- **The way along some names is clear**: none is too long, and no file stands on it. -/
structure Clear (d : Disk) (here : Location) (names : List String) : Prop where
  /-- No name is too long. -/
  short : ∀ name ∈ names, name.utf8ByteSize ≤ nameLimit
  /-- No file stands on the way. -/
  free : ∀ first, first <+: names → ∀ bytes, d.get? (place here first) ≠ some (.file bytes)

theorem Clear.of_cons {name : String} (h : d.Clear here (name :: names)) :
    d.Clear (move here name) names where
  short other hmem := h.short other (List.mem_cons_of_mem _ hmem)
  free first hfirst := h.free (name :: first) (List.cons_prefix_cons.mpr ⟨rfl, hfirst⟩)

theorem Clear.of_prefix {first : List String} (h : d.Clear here names) (hfirst : first <+: names) :
    d.Clear here first where
  short name hmem := h.short name (hfirst.subset hmem)
  free other hother := h.free other (hother.trans hfirst)

/-- A clear way stays clear as long as no file comes about on it. -/
theorem Clear.mono {dirs : Set Location} (hchanges : d.Changes dirs ∅ d')
    (h : d.Clear here names) : d'.Clear here names where
  short := h.short
  free first hfirst bytes hfile := by
    rcases hchanges.cases (place here first) with hsame | ⟨-, -, hdir⟩ | ⟨hmem, -⟩
    · exact h.free first hfirst bytes (hsame ▸ hfile)
    · rw [hdir] at hfile
      cases hfile
    · exact hmem

/-- No name on an open way is too long. -/
theorem Open.short (h : d.Open here names) : ∀ name ∈ names, name.utf8ByteSize ≤ nameLimit := by
  induction names generalizing here with
  | nil => simp
  | cons name rest ih =>
    intro other hmem
    rcases List.mem_cons.mp hmem with rfl | hmem
    · exact h.2.1
    · exact ih h.2.2 other hmem

/-- Dots can be followed from a directory, and lead nowhere. -/
theorem open_dots (hdir : d.get? here = some .directory) (hdots : ∀ name ∈ names, name = ".") :
    d.Open here names ∧ place here names = here := by
  induction names with
  | nil => exact ⟨trivial, rfl⟩
  | cons name rest ih =>
    obtain rfl := hdots name List.mem_cons_self
    obtain ⟨hopen, hplace⟩ := ih fun other hmem => hdots other (List.mem_cons_of_mem _ hmem)
    have hmove : move here "." = here := if_pos rfl
    exact ⟨⟨hdir, by decide, by rwa [hmove]⟩, by rw [place_cons, hmove, hplace]⟩

namespace IsTree

/-- **A clear way that is not open** is one on which something is missing. -/
theorem walkNames_of_clear (h : d.IsTree) {follow : Bool}
    {jump : Location → List String → Except DiskError Target}
    (hdir : d.get? here = some .directory) (hclear : d.Clear here names)
    (hopen : ¬d.Open here names) : d.walkNames follow jump here names = .error .notFound := by
  induction names generalizing here with
  | nil => exact absurd trivial hopen
  | cons name rest ih =>
    have hsize := hclear.short name List.mem_cons_self
    have hrest : ¬d.Open (move here name) rest := fun hc => hopen ⟨hdir, hsize, hc⟩
    have hnext := hclear.free [name] (List.cons_prefix_cons.mpr ⟨rfl, List.nil_prefix⟩)
    have ih' := fun hget => ih hget hclear.of_cons hrest
    rw [place_cons, place_nil] at hnext
    rw [walkNames, if_neg (not_not.mpr hdir)]
    unfold move at ih' hnext
    split
    · rename_i hdot
      rw [if_pos hdot] at ih'
      exact ih' hdir
    · rename_i hdot
      rw [if_neg hdot] at ih' hnext
      split
      · rename_i hup
        rw [if_pos hup] at ih'
        exact ih' (h.get?_dropLast hdir)
      · rename_i hup
        rw [if_neg hup] at ih' hnext
        rw [if_neg (Nat.not_lt.mpr hsize)]
        cases hget : d.get? (here ++ [name]) with
        | none =>
          -- nothing is missing behind the last name
          cases rest with
          | nil => exact absurd trivial hrest
          | cons next rest => rfl
        | some entry =>
          cases entry with
          | directory => exact ih' hget
          | file bytes => exact absurd hget (hnext bytes)
          | link target => exact absurd hget (h.get?_ne_link _ _)

theorem walk_of_clear (h : d.IsTree) {follow : Bool} {links : Nat}
    (hdir : d.get? here = some .directory) (hclear : d.Clear here names)
    (hopen : ¬d.Open here names) : d.walk follow links here names = .error .notFound := by
  cases links <;> exact h.walkNames_of_clear hdir hclear hopen

end IsTree

/-! ### Passable paths -/

/-- **A path at which a directory can be made**, with what is missing on the way. -/
structure Passable (d : Disk) (cwd : Location) (path : String) : Prop where
  /-- The path is one that can be followed. -/
  check : checkPath path = .ok ()
  /-- It begins in a directory. -/
  start : d.get? (origin cwd path) = some .directory
  /-- Its way is clear. -/
  clear : d.Clear (origin cwd path) (bareSteps path)

theorem Passable.mono {dirs : Set Location} (hchanges : d.Changes dirs ∅ d')
    (h : d.Passable cwd path) : d'.Passable cwd path :=
  ⟨h.check, hchanges.keepsDirectories _ h.start, h.clear.mono hchanges⟩

/-- A path that can be followed to its end leads to a directory, or to a vacant place. -/
theorem Passable.get?_or (ht : d.IsTree) (h : d.Passable cwd path) :
    d.get? (placeOf cwd path) = some .directory ∨ d.get? (placeOf cwd path) = none := by
  cases hget : d.get? (placeOf cwd path) with
  | none => exact Or.inr rfl
  | some entry =>
    cases entry with
    | directory => exact Or.inl rfl
    | file bytes => exact absurd hget (h.clear.free _ List.prefix_rfl bytes)
    | link target => exact absurd hget (ht.get?_ne_link _ _)

/-- **A directory that is there can be made** once more. -/
theorem IsTree.passable_of_isDirectory (h : d.IsTree) (hdir : d.isDirectory cwd path = true) :
    d.Passable cwd path := by
  obtain ⟨hcheck, hopen, hget⟩ := h.isDirectory_iff.mp hdir
  refine ⟨hcheck, hopen.get?_start hget, hopen.short, fun first hfirst bytes hfile => ?_⟩
  rw [hopen.get?_of_prefix hget hfirst] at hfile
  cases hfile

/-- Names that end in dots are followed to their end only from a directory. -/
theorem exists_of_endsInDots (h : endsInDots names = true) :
    names = [] ∨ ∃ dots, names = names.dropLast ++ [dots] ∧ (dots = "." ∨ dots = "..") := by
  rcases List.eq_nil_or_concat' names with rfl | ⟨init, last, rfl⟩
  · exact Or.inl rfl
  · refine Or.inr ⟨last, by simp, ?_⟩
    simpa [endsInDots] using h

/-- A way that ends in dots leads to a directory, if it can be followed. -/
theorem IsTree.get?_of_endsInDots (ht : d.IsTree) (h : d.Passable cwd path)
    (hdots : endsInDots (bareSteps path) = true)
    (hopen : d.Open (origin cwd path) (bareSteps path)) :
    d.get? (placeOf cwd path) = some .directory := by
  rw [placeOf]
  rcases exists_of_endsInDots hdots with hnil | ⟨dots, hnames, hdot⟩
  · rw [hnil, place_nil]
    exact h.start
  · rw [hnames, open_append] at hopen
    rw [hnames, place_append, place_cons, place_nil, move]
    rcases hdot with rfl | rfl
    · rw [if_pos rfl]
      exact hopen.2.1
    · rw [if_neg (by decide), if_pos rfl]
      exact ht.get?_dropLast hopen.2.1

/-- **Dots cannot be made**: where they cannot be followed, what they lead from is missing. -/
theorem IsTree.dotsFailure_of_not_open (ht : d.IsTree) (h : d.Passable cwd path)
    (hdots : endsInDots (bareSteps path) = true)
    (hopen : ¬d.Open (origin cwd path) (bareSteps path)) :
    dotsFailure .occupied
      (d.walk true linkLimit (origin cwd path) (bareSteps path).dropLast) = .notFound := by
  have hclear := h.clear.of_prefix (List.dropLast_prefix _)
  by_cases hinit : d.Open (origin cwd path) (bareSteps path).dropLast
  · have hwalk : d.walk true linkLimit (origin cwd path) (bareSteps path).dropLast =
        .ok (d.targetAt (place (origin cwd path) (bareSteps path).dropLast)) :=
      (ht.walk_eq_ok_iff (Or.inr (by simp [h.start]))).mpr ⟨hinit, rfl⟩
    rw [hwalk, targetAt]
    cases hget : d.get? (place (origin cwd path) (bareSteps path).dropLast) with
    | none => rfl
    | some entry =>
      cases entry with
      | file bytes => exact absurd hget (hclear.free _ List.prefix_rfl bytes)
      | link target => exact absurd hget (ht.get?_ne_link _ _)
      | directory =>
        -- a directory there would make the way open
        refine absurd ?_ hopen
        rcases exists_of_endsInDots hdots with hnil | ⟨dots, hnames, -⟩
        · rw [hnil]
          trivial
        · rw [hnames, open_append]
          exact ⟨hinit, hget, h.clear.short dots (by rw [hnames]; simp), trivial⟩
  · rw [ht.walk_of_clear h.start hclear hinit]
    rfl

/-- **Making a single directory at a passable path**: it is made, or it is there, or something is
missing before it. -/
theorem IsTree.makeDir_of_passable (ht : d.IsTree) (h : d.Passable cwd path) :
    (∃ d', d.makeDir cwd path = .ok d') ∨
      (d.makeDir cwd path = .error .occupied ∧ d.isDirectory cwd path = true) ∨
      (d.makeDir cwd path = .error .notFound ∧ ¬d.Open (origin cwd path) (bareSteps path)) := by
  by_cases hthere : d.isDirectory cwd path = true
  · exact Or.inr (Or.inl ⟨ht.makeDir_of_isDirectory hthere, hthere⟩)
  have hnodir : d.Open (origin cwd path) (bareSteps path) →
      d.get? (placeOf cwd path) ≠ some .directory := fun hopen hget =>
    hthere (ht.isDirectory_iff.mpr ⟨h.check, hopen, hget⟩)
  rw [makeDir, resolveBare, h.check]
  simp only [bind, Except.bind]
  by_cases hdots : endsInDots (bareSteps path) = true
  · have hopen : ¬d.Open (origin cwd path) (bareSteps path) := fun hopen =>
      hnodir hopen (ht.get?_of_endsInDots h hdots hopen)
    rw [if_pos hdots, ht.dotsFailure_of_not_open h hdots hopen]
    exact Or.inr (Or.inr ⟨rfl, hopen⟩)
  · rw [if_neg hdots]
    by_cases hopen : d.Open (origin cwd path) (bareSteps path)
    · have hwalk : d.walk false linkLimit (origin cwd path) (bareSteps path) =
          .ok (.vacant (placeOf cwd path)) :=
        (ht.walk_eq_ok_iff (Or.inr (by simp [h.start]))).mpr
          ⟨hopen, targetAt_eq_vacant.mpr ⟨rfl, (h.get?_or ht).resolve_left (hnodir hopen)⟩⟩
      rw [hwalk]
      exact Or.inl ⟨_, rfl⟩
    · rw [ht.walk_of_clear h.start h.clear hopen]
      exact Or.inr (Or.inr ⟨rfl, hopen⟩)

/-! ### The path before -/

/-- **The first pieces of a path** can be followed if the path can. -/
theorem checkPath_ofReversed {ys : List String} (h : checkPath path = .ok ())
    (hys : ys <:+ (Path.pieces path).reverse)
    (hne : Path.ofReversed (Path.isAbsolute path) ys ≠ "") :
    checkPath (Path.ofReversed (Path.isAbsolute path) ys) = .ok () := by
  cases hcases : ys with
  | nil =>
    rw [hcases] at hne
    cases hroot : Path.isAbsolute path with
    | false => simp [Path.ofReversed, hroot] at hne
    | true => exact (by decide : checkPath "/" = .ok ())
  | cons y before =>
    -- put together they are a beginning of the path
    have hfront : ys.reverse <+: Path.pieces path := by simpa using List.reverse_prefix.mpr hys
    obtain ⟨rest, hrest⟩ := Path.exists_append_of_prefix (by simp [hcases]) hfront
    have htext := Path.ofReversed_of_ne_nil (Path.isAbsolute path) (by simp [hcases] : ys ≠ [])
    obtain ⟨hnul, -, hsize⟩ := of_checkPath h
    rw [← hcases]
    rw [htext] at hne ⊢
    generalize String.intercalate "/" ys.reverse = front at hrest hne
    rw [hrest] at hnul hsize
    refine checkPath_eq_ok_iff.mpr ⟨fun hmem => hnul (by simp [hmem]), hne, ?_⟩
    rw [String.utf8ByteSize_append] at hsize
    omega

/-- **The paths that lead to a passable path** are passable. -/
theorem Passable.of_ofReversed {ys : List String} (h : d.Passable cwd path)
    (hys : ys <:+ (Path.pieces path).reverse)
    (hne : Path.ofReversed (Path.isAbsolute path) ys ≠ "") :
    d.Passable cwd (Path.ofReversed (Path.isAbsolute path) ys) := by
  obtain ⟨hnames, habs⟩ := Path.of_ofReversed hys hne
  have horigin : origin cwd (Path.ofReversed (Path.isAbsolute path) ys) = origin cwd path := by
    rw [origin, origin, habs]
  exact ⟨checkPath_ofReversed h.check hys hne, by rw [horigin]; exact h.start,
    by rw [horigin]; exact h.clear.of_prefix hnames⟩

section Before

variable (absolute : Bool) {last : String} {before : List String}
  (hslash : ∀ piece ∈ last :: before, '/' ∉ piece.toList)

include hslash

/-- **The names of a path** are those of the path before, dots, and the last one. -/
theorem exists_bareSteps_ofReversed (hlast : last ≠ "") :
    ∃ dots, (∀ name ∈ dots, name = ".") ∧
      bareSteps (Path.ofReversed absolute (last :: before)) =
        bareSteps (Path.ofReversed absolute (Path.dropIdle before)) ++ dots ++ [last] := by
  obtain ⟨idle, hbefore, hidle⟩ := Path.exists_dropIdle before
  refine ⟨idle.reverse.filter fun p => !p.isEmpty, fun name hmem => ?_, ?_⟩
  · obtain ⟨hmem, hne⟩ := List.mem_filter.mp hmem
    exact (hidle name (List.mem_reverse.mp hmem)).resolve_left (by simpa using hne)
  · have hrest : bareSteps (Path.ofReversed absolute (Path.dropIdle before)) =
        (Path.dropIdle before).reverse.filter fun p => !p.isEmpty := by
      cases hleft : Path.dropIdle before with
      | nil => cases absolute <;> decide
      | cons y ys =>
        refine Path.bareSteps_ofReversed _ (by simp) fun x hx => hslash x ?_
        rw [← hleft] at hx
        exact List.mem_cons_of_mem _ ((Path.dropIdle_suffix before).subset hx)
    rw [Path.bareSteps_ofReversed _ (by simp) hslash, hrest]
    conv_lhs => rw [hbefore]
    simp [hlast]

end Before

/-- **Some first pieces that lead to a directory** are followed to it; none at all lead nowhere. -/
theorem Passable.open_ofReversed {ys : List String} (ht : d.IsTree) (h : d.Passable cwd path)
    (hys : ys <:+ (Path.pieces path).reverse)
    (hdir : Path.ofReversed (Path.isAbsolute path) ys ≠ "" →
      d.isDirectory cwd (Path.ofReversed (Path.isAbsolute path) ys) = true) :
    d.Open (origin cwd path) (bareSteps (Path.ofReversed (Path.isAbsolute path) ys)) ∧
      d.get? (place (origin cwd path) (bareSteps (Path.ofReversed (Path.isAbsolute path) ys))) =
        some .directory := by
  by_cases hempty : Path.ofReversed (Path.isAbsolute path) ys = ""
  · rw [hempty, Path.bareSteps_empty]
    exact ⟨trivial, h.start⟩
  · obtain ⟨-, hopen, hget⟩ := ht.isDirectory_iff.mp (hdir hempty)
    rw [placeOf] at hget
    rw [origin, (Path.of_ofReversed hys hempty).2, ← origin] at hopen hget
    exact ⟨hopen, hget⟩

/-- **Once the path before leads to a directory**, nothing is missing any more. -/
theorem Passable.open_of_before {last : String} {before : List String} (ht : d.IsTree)
    (h : d.Passable cwd path) (hxs : last :: before <:+ (Path.pieces path).reverse)
    (htrim : Path.dropIdle (last :: before) = last :: before)
    (hne : Path.ofReversed (Path.isAbsolute path) (last :: before) ≠ "")
    (hdir : Path.ofReversed (Path.isAbsolute path) (Path.dropIdle before) ≠ "" →
      d.isDirectory cwd (Path.ofReversed (Path.isAbsolute path) (Path.dropIdle before)) = true) :
    d.Open (origin cwd (Path.ofReversed (Path.isAbsolute path) (last :: before)))
      (bareSteps (Path.ofReversed (Path.isAbsolute path) (last :: before))) := by
  have hpass := h.of_ofReversed hxs hne
  have horigin : origin cwd (Path.ofReversed (Path.isAbsolute path) (last :: before)) =
      origin cwd path := by
    rw [origin, origin, (Path.of_ofReversed hxs hne).2]
  have hclear := hpass.clear
  rw [horigin] at hclear ⊢
  have hreach := h.open_ofReversed ht (Path.dropIdle_suffix_of_cons hxs) hdir
  have hslash := Path.slash_notMem_of_suffix hxs
  have hlast : last ≠ "" := by
    have hidle := Path.isIdle_of_dropIdle htrim
    rintro rfl
    simp [Path.isIdle] at hidle
  obtain ⟨dots, hdots, hnames⟩ :=
    exists_bareSteps_ofReversed (Path.isAbsolute path) hslash hlast
  obtain ⟨hopen, hplace⟩ := open_dots hreach.2 hdots
  rw [hnames] at hclear ⊢
  refine open_append.mpr ⟨open_append.mpr ⟨hreach.1, hopen⟩, ?_⟩
  rw [place_append, hplace]
  exact ⟨hreach.2, hclear.short last (by simp), trivial⟩

end Disk

end TwinTypes
