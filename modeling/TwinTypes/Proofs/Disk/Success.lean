import Mathlib.Data.List.Sort
import TwinTypes.Proofs.Disk.Change

/-!
# When the operations on a tree succeed

A path that is put together of the path of a directory and a name finds what has that name in the
directory, and fails in one way alone: the name or the path has too many bytes
(`TwinTypes.Disk.Overlong`). `TwinTypes.Disk.IsTree.resolve_join` says so, once the way to the
directory is open (`TwinTypes.Disk.Reaches`), and what becomes of each operation on such a path is
read off it.

The empty path leads to the working directory, although it does not name it: nothing can be done at
the empty path, but a name that is joined to it stands in the working directory. That is why a
directory is said to be reached here, and not to be there.

The last part says when two trees are the same.
-/

namespace TwinTypes.Disk

open TwinTypes.Path (isAbsolute)

variable {d d' : Disk} {cwd : Location} {path name : String}

/-! ### Directories that are reached -/

/-- **A path leads to a directory**, slashes at its end and an empty path allowed. -/
structure Reaches (d : Disk) (cwd : Location) (path : String) : Prop where
  /-- The way is open. -/
  opens : d.Open (origin cwd path) (bareSteps path)
  /-- There is a directory at its end. -/
  get? : d.get? (placeOf cwd path) = some .directory

/-- Directories stay in reach as long as none goes away. -/
theorem Reaches.mono (hkeep : d.KeepsDirectories d') (h : d.Reaches cwd path) :
    d'.Reaches cwd path :=
  ⟨h.opens.mono hkeep, hkeep _ h.get?⟩

theorem IsTree.isDirectory_iff_reaches (h : d.IsTree) :
    d.isDirectory cwd path = true ↔ checkPath path = .ok () ∧ d.Reaches cwd path := by
  rw [h.isDirectory_iff]
  exact and_congr_right fun _ => ⟨fun ⟨ho, hg⟩ => ⟨ho, hg⟩, fun ⟨ho, hg⟩ => ⟨ho, hg⟩⟩

/-- Nothing is in the way to a directory, not even to the first name. -/
theorem Open.get?_start {here : Location} {names : List String} (hopen : d.Open here names)
    (hdir : d.get? (place here names) = some .directory) : d.get? here = some .directory := by
  cases names with
  | nil => exact hdir
  | cons name rest => exact hopen.1

/-- **Every place on the way to a directory is a directory.** -/
theorem Open.get?_of_prefix {here : Location} {names first : List String}
    (hopen : d.Open here names) (hdir : d.get? (place here names) = some .directory)
    (hfirst : first <+: names) : d.get? (place here first) = some .directory := by
  obtain ⟨rest, rfl⟩ := hfirst
  rw [place_append] at hdir
  exact (open_append.mp hopen).2.get?_start hdir

/-- **Names that lead to a directory are followed** before any others. -/
theorem walkNames_append {follow : Bool}
    {jump : Location → List String → Except DiskError Target} {here : Location}
    {names : List String} (hopen : d.Open here names)
    (hdir : d.get? (place here names) = some .directory) (rest : List String) :
    d.walkNames follow jump here (names ++ rest) =
      d.walkNames follow jump (place here names) rest := by
  induction names generalizing here with
  | nil => rfl
  | cons name names ih =>
    obtain ⟨hhere, hsize, hopen⟩ := hopen
    rw [place_cons] at hdir ⊢
    have hnext := hopen.get?_start hdir
    rw [List.cons_append, walkNames, if_neg (not_not.mpr hhere), ← ih hopen hdir]
    unfold move at hnext ⊢
    split
    · rfl
    · rename_i hdot
      split
      · rfl
      · rename_i hup
        rw [if_neg hdot, if_neg hup] at hnext
        rw [if_neg (Nat.not_lt.mpr hsize)]
        simp only [hnext]

/-! ### Names in a directory that is reached -/

/-- **Too long to be named**: the name, or its path, has too many bytes. -/
def Overlong (path name : String) : Prop :=
  nameLimit < name.utf8ByteSize ∨ pathLimit < (Path.join path name).utf8ByteSize

instance (path name : String) : Decidable (Overlong path name) :=
  inferInstanceAs (Decidable (_ ∨ _))

theorem ne_empty_of_join (path : String) (hname : Path.IsSegment name) :
    Path.join path name ≠ "" := by
  obtain ⟨front, hfront⟩ :=
    Path.exists_join_eq path (Path.isAbsolute_of_notMem hname.slash)
  rw [hfront]
  simp [hname.ne_empty]

/-- What a path has to be like that is put together. -/
theorem checkPath_join (hname : Path.IsSegment name)
    (hnul : '\x00' ∉ (Path.join path name).toList) :
    checkPath (Path.join path name) =
      if pathLimit < (Path.join path name).utf8ByteSize then .error .nameTooLong else .ok () := by
  have hempty : (Path.join path name).isEmpty = false :=
    String.isEmpty_eq_false_iff.mpr (ne_empty_of_join path hname)
  simp [checkPath, hnul, hempty]

theorem bareSteps_join_segment (path : String) (hname : Path.IsSegment name) :
    bareSteps (Path.join path name) = bareSteps path ++ [name] := by
  rw [Path.bareSteps_join (Path.isAbsolute_of_notMem hname.slash), hname.bareSteps]

theorem origin_join_segment (cwd : Location) (path : String) (hname : Path.IsSegment name) :
    origin cwd (Path.join path name) = origin cwd path :=
  origin_join (Path.isAbsolute_of_notMem hname.slash)

/-- A path that ends with a name does not ask for a directory. -/
theorem getLast?_join (path : String) (hname : Path.IsSegment name) :
    (Path.join path name).toList.getLast? ≠ some '/' := by
  obtain ⟨front, hfront⟩ :=
    Path.exists_join_eq path (Path.isAbsolute_of_notMem hname.slash)
  rw [hfront, String.toList_append, List.getLast?_append_of_ne_nil _
    (by simpa [String.toList_eq_nil_iff] using hname.ne_empty)]
  exact fun hslash => hname.slash (List.mem_of_getLast? hslash)

theorem steps_join (path : String) (hname : Path.IsSegment name) :
    steps (Path.join path name) = bareSteps path ++ [name] := by
  rw [steps_eq, if_neg fun hc => getLast?_join path hname hc.1, bareSteps_join_segment path hname]

namespace IsTree

/-- A name is followed from a directory. -/
theorem walkNames_segment (h : d.IsTree) {follow : Bool}
    {jump : Location → List String → Except DiskError Target} {here : Location}
    (hname : Path.IsSegment name) (hdir : d.get? here = some .directory) :
    d.walkNames follow jump here [name] =
      if nameLimit < name.utf8ByteSize then .error .nameTooLong
      else .ok (d.targetAt (here ++ [name])) := by
  rw [walkNames, if_neg (not_not.mpr hdir), if_neg hname.ne_dot, if_neg hname.ne_up]
  split
  · rfl
  · cases hget : d.get? (here ++ [name]) with
    | none => simp [targetAt, hget]
    | some entry =>
      cases entry with
      | link target => exact absurd hget (h.get?_ne_link _ _)
      | directory => simp [walkNames, targetAt, hget]
      | file bytes => simp [walkNames, targetAt, hget]

theorem walk_join (h : d.IsTree) (hreach : d.Reaches cwd path) (hname : Path.IsSegment name)
    {follow : Bool} {links : Nat} :
    d.walk follow links (origin cwd path) (bareSteps path ++ [name]) =
      if nameLimit < name.utf8ByteSize then .error .nameTooLong
      else .ok (d.targetAt (placeOf cwd path ++ [name])) := by
  cases links with
  | zero =>
    exact (walkNames_append hreach.opens hreach.get? [name]).trans
      (h.walkNames_segment hname hreach.get?)
  | succ links =>
    exact (walkNames_append hreach.opens hreach.get? [name]).trans
      (h.walkNames_segment hname hreach.get?)

section Join

variable (h : d.IsTree) (hreach : d.Reaches cwd path) (hname : Path.IsSegment name)
  (hnul : '\x00' ∉ (Path.join path name).toList)

include h hreach hname hnul

/-- **What a name joined to the path of a directory names**: what has that name in it. -/
theorem resolve_join (follow : Bool) :
    d.resolve cwd follow (Path.join path name) =
      if Overlong path name then .error .nameTooLong
      else .ok (d.targetAt (placeOf cwd path ++ [name])) := by
  rw [resolve, checkPath_join hname hnul, origin_join_segment cwd path hname, steps_join path hname,
    h.walk_join hreach hname]
  by_cases hpath : pathLimit < (Path.join path name).utf8ByteSize
  · simp [Overlong, hpath, bind, Except.bind]
  · by_cases hlong : nameLimit < name.utf8ByteSize
    · simp [Overlong, hpath, hlong, bind, Except.bind]
    · simp [Overlong, hpath, hlong, bind, Except.bind]

theorem resolveBare_join (dots : DiskError) :
    d.resolveBare cwd dots (Path.join path name) =
      if Overlong path name then .error .nameTooLong
      else .ok (d.targetAt (placeOf cwd path ++ [name])) := by
  have hdots : endsInDots (bareSteps path ++ [name]) = false := by
    simp [endsInDots, hname.ne_dot, hname.ne_up]
  rw [resolveBare, checkPath_join hname hnul, origin_join_segment cwd path hname,
    bareSteps_join_segment path hname]
  simp only [hdots, Bool.false_eq_true, if_false]
  rw [h.walk_join hreach hname]
  by_cases hpath : pathLimit < (Path.join path name).utf8ByteSize
  · simp [Overlong, hpath, bind, Except.bind]
  · by_cases hlong : nameLimit < name.utf8ByteSize
    · simp [Overlong, hpath, hlong, bind, Except.bind]
    · simp [Overlong, hpath, hlong, bind, Except.bind]

/-! ### Operations -/

/-- **Making a directory** succeeds where nothing stands, if it can be named. -/
theorem makeDir_join_vacant (hshort : ¬Overlong path name)
    (hvacant : d.get? (placeOf cwd path ++ [name]) = none) :
    d.makeDir cwd (Path.join path name) =
      .ok (d.put (placeOf cwd path ++ [name]) .directory) := by
  rw [makeDir, h.resolveBare_join hreach hname hnul, if_neg hshort]
  simp [targetAt, hvacant]

/-- **Creating a file** succeeds where nothing stands, if it can be named. -/
theorem createFile_join :
    d.createFile cwd (Path.join path name) =
      if Overlong path name then .error .nameTooLong
      else if d.get? (placeOf cwd path ++ [name]) = none then
        .ok (d.put (placeOf cwd path ++ [name]) (.file .empty))
      else .error .occupied := by
  rw [createFile, h.resolve_join hreach hname hnul]
  by_cases hlong : Overlong path name
  · simp [hlong]
  · cases hget : d.get? (placeOf cwd path ++ [name]) with
    | none => simp [hlong, targetAt, hget]
    | some entry => simp [hlong, targetAt, hget]

end Join

/-- A directory that is there is not made again. -/
theorem makeDir_of_isDirectory (h : d.IsTree) (hdir : d.isDirectory cwd path = true) :
    d.makeDir cwd path = .error .occupied := by
  obtain ⟨hcheck, hopen, hget⟩ := h.isDirectory_iff.mp hdir
  have hstart := start_of_ne_empty d cwd (of_checkPath hcheck).2.1
  rw [makeDir, resolveBare, hcheck]
  simp only [bind, Except.bind]
  by_cases hdots : endsInDots (bareSteps path) = true
  · -- dots lead on from a directory, which is what is found without them
    have hinit : (bareSteps path).dropLast <+: bareSteps path := List.dropLast_prefix _
    have hparent := hopen.get?_of_prefix hget hinit
    obtain ⟨rest, hrest⟩ := hinit
    rw [← hrest, open_append] at hopen
    have hwalk : d.walk true linkLimit (origin cwd path) (bareSteps path).dropLast =
        .ok (.found (place (origin cwd path) (bareSteps path).dropLast) .directory) := by
      refine (h.walk_eq_ok_iff (Or.inr ?_)).mpr ⟨hopen.1, targetAt_eq_found.mpr ⟨rfl, hparent⟩⟩
      rw [hopen.1.get?_start hparent]
      simp
    rw [if_pos hdots, hwalk]
    rfl
  · have hwalk : d.walk false linkLimit (origin cwd path) (bareSteps path) =
        .ok (.found (placeOf cwd path) .directory) :=
      (h.walk_eq_ok_iff hstart).mpr ⟨hopen, targetAt_eq_found.mpr ⟨rfl, hget⟩⟩
    rw [if_neg hdots, hwalk]

end IsTree

/-- **Renaming a file that was just filled** succeeds unless a directory is in the way, if the
target can be named. -/
theorem Filled.renameFile_join {d₂ : Disk} {temp : String} {bytes : ByteArray}
    (hf : Filled d d₂ cwd temp bytes) (hreach : d₂.Reaches cwd path) (hname : Path.IsSegment name)
    (hnul : '\x00' ∉ (Path.join path name).toList) (hshort : ¬Overlong path name)
    (hdir : d₂.get? (placeOf cwd path ++ [name]) ≠ some .directory) :
    d₂.renameFile cwd temp (Path.join path name) =
      .ok ((d₂.erase (placeOf cwd temp)).put (placeOf cwd path ++ [name]) (.file bytes)) := by
  have hasks : asksForDirectory (Path.join path name) = false := by
    simpa [asksForDirectory] using getLast?_join path hname
  rw [renameFile, hf.resolve, hf.tree.resolveBare_join hreach hname hnul, if_neg hshort]
  simp only [bind, Except.bind, hasks, Bool.false_eq_true, if_false]
  cases hget : d₂.get? (placeOf cwd path ++ [name]) with
  | none => simp [targetAt, hget]
  | some entry =>
    cases entry with
    | directory => exact absurd hget hdir
    | file old => simp [targetAt, hget]
    | link target => simp [targetAt, hget]

/-! ### Trees that hold the same -/

/-- **Two trees are the same if everywhere the same stands.** -/
theorem IsTree.ext_get? (h : d.IsTree) (h' : d'.IsTree) (hget : ∀ loc, d.get? loc = d'.get? loc) :
    d = d' := by
  have hirrefl : Std.Irrefl fun a b : Location × Entry => a.1 < b.1 := ⟨fun a => lt_irrefl a.1⟩
  have hantisymm : Std.Antisymm fun a b : Location × Entry => a.1 < b.1 :=
    ⟨fun a b hab hba => absurd (hab.trans hba) (lt_irrefl a.1)⟩
  have hmem : ∀ e, e ∈ d.entries ↔ e ∈ d'.entries := by
    intro e
    constructor
    · intro he
      have hsame := h.get?_of_mem he
      rw [hget] at hsame
      exact mem_of_get? (h.placed e he).1 hsame
    · intro he
      have hsame := h'.get?_of_mem he
      rw [← hget] at hsame
      exact mem_of_get? (h'.placed e he).1 hsame
  have hentries : d.entries = d'.entries := h.ordered.eq_of_mem_iff h'.ordered hmem
  cases d
  cases d'
  exact congrArg Disk.mk hentries

end TwinTypes.Disk
