import TwinTypes.Proofs.Run.Deciding
import TwinTypes.Proofs.Run.Directories

/-!
# A file is written whole or not at all

Writing a file whole goes through four steps that may fail – the directory is made, a temporary file
is created beside the target, it is filled, it is moved – and none of them leaves a trace among the
files unless the last one succeeds. `TwinTypes.atomicWrite_all_or_nothing` says so place by place:
after a success every file is as before but the one at the path, which holds the bytes; after a
failure every file is as before; and the directories that are new stand on the way to the directory
of the path.

Which of the two it will be can be told beforehand. `TwinTypes.World.Hindered` lists what may be in
the way, and nothing else is. Two hindrances are easily missed. A temporary name is longer than the
name that it is made of, so a file that could stand there may still be one that cannot be written.
And a path that comes back by two dots to where it went, like `a/../a`, makes a directory in the
place of its own file.
-/

namespace TwinTypes

open Disk (bareSteps endsInDots move onTheWay origin place placeOf place_cons)
open Path (isSolid)

/-! ### Files and directories after a change -/

namespace Disk.Changes

variable {dirs files : Set Location} {d d' : Disk} {loc : Location}

/-- **Outside the bounds the files are the same.** -/
theorem get?_file_iff (h : d.Changes dirs files d') (hloc : loc ∉ files) (bytes : ByteArray) :
    d'.get? loc = some (.file bytes) ↔ d.get? loc = some (.file bytes) := by
  rcases h.cases loc with hsame | ⟨-, hnone, hdir⟩ | ⟨hmem, -⟩
  · rw [hsame]
  · simp [hnone, hdir]
  · exact absurd hmem hloc

/-- **Directories come about within the bounds alone.** -/
theorem directory_or_mem (h : d.Changes dirs files d') (hdir : d'.get? loc = some .directory) :
    d.get? loc = some .directory ∨ loc ∈ dirs := by
  rcases h.cases loc with hsame | ⟨hmem, -, -⟩ | ⟨-, -, bytes, hfile⟩
  · exact Or.inl (hsame ▸ hdir)
  · exact Or.inr hmem
  · rw [hfile] at hdir
    cases hdir

end Disk.Changes

/-! ### Names and dots -/

section Names

variable {d : Disk} {cwd here : Location} {names : List String} {path name : String}

/-- Of names that are not empty only the dots say nothing. -/
theorem eq_dot_of_not_isSolid (hne : name ≠ "") (h : ¬isSolid name = true) : name = "." := by
  simpa [isSolid, hne] using h

/-- **Dots neither open a way to a directory nor close it.** -/
theorem Disk.open_filter_iff (hne : ∀ name ∈ names, name ≠ "")
    (hdir : d.get? (place here names) = some .directory) :
    d.Open here (names.filter isSolid) ↔ d.Open here names := by
  induction names generalizing here with
  | nil => rfl
  | cons first rest ih =>
    have hrest : ∀ name ∈ rest, name ≠ "" := fun other hmem =>
      hne other (List.mem_cons_of_mem _ hmem)
    rw [place_cons] at hdir
    by_cases hsolid : isSolid first = true
    · rw [List.filter_cons_of_pos hsolid, Open, Open, ih hrest hdir]
    · obtain rfl := eq_dot_of_not_isSolid (hne first List.mem_cons_self) hsolid
      have hmove : move here "." = here := if_pos rfl
      rw [hmove] at hdir
      rw [List.filter_cons_of_neg hsolid, ih hrest hdir, Open, hmove]
      refine ⟨fun hopen => ⟨hopen.get?_start hdir, by decide, hopen⟩, fun hopen => hopen.2.2⟩

/-- **The names of a path** are those of the pieces that say something, and dots. -/
theorem exists_bareSteps_eq (path : String) :
    ∃ dots, (∀ name ∈ dots, name = ".") ∧ bareSteps path =
      ((Path.reversedPieces path).reverse.filter fun p => !p.isEmpty) ++ dots := by
  obtain ⟨idle, hpieces, hidle⟩ := Path.exists_dropIdle (Path.pieces path).reverse
  refine ⟨idle.reverse.filter fun p => !p.isEmpty, fun name hmem => ?_, ?_⟩
  · obtain ⟨hmem, hne⟩ := List.mem_filter.mp hmem
    exact (hidle name (List.mem_reverse.mp hmem)).resolve_left (by simpa using hne)
  · rw [bareSteps, ← List.filter_append, ← List.reverse_append, Path.reversedPieces, ← hpieces,
      List.reverse_reverse]

/-- **A path that does not end in dots** ends in a name. -/
theorem exists_fileName (h : endsInDots (bareSteps path) = false) : ∃ name init,
    Path.fileName path = some name ∧ bareSteps path = init ++ [name] := by
  obtain ⟨dots, hdots, hnames⟩ := exists_bareSteps_eq path
  rcases List.eq_nil_or_concat' (bareSteps path) with hnil | ⟨init, last, hlast⟩
  · simp [endsInDots, hnil] at h
  obtain ⟨hdot, hup⟩ : last ≠ "." ∧ last ≠ ".." := by simpa [endsInDots, hlast] using h
  refine ⟨last, init, ?_, hlast⟩
  obtain rfl : dots = [] := by
    rcases List.eq_nil_or_concat' dots with hnil | ⟨xs, x, rfl⟩
    · exact hnil
    · rw [hlast, ← List.append_assoc] at hnames
      obtain rfl : last = x := by simpa using congrArg List.getLast? hnames
      exact absurd (hdots last (by simp)) hdot
  rw [hlast, List.append_nil] at hnames
  cases hback : Path.reversedPieces path with
  | nil => simp [hback] at hnames
  | cons piece before =>
    have hne : piece ≠ "" := by
      have hidle := Path.isIdle_of_dropIdle hback
      rintro rfl
      simp [Path.isIdle] at hidle
    rw [hback, List.reverse_cons, List.filter_append] at hnames
    obtain rfl : last = piece := by simpa [hne] using congrArg List.getLast? hnames
    simp [Path.fileName, hback, hdot, hup]

/-- **The way to a name** in a directory that is reached is open. -/
theorem Disk.Reaches.open_fileName {init : List String} (hreach : d.Reaches cwd (parentDir path))
    (hname : Path.fileName path = some name) (hnames : bareSteps path = init ++ [name])
    (hshort : name.utf8ByteSize ≤ nameLimit) : d.Open (origin cwd path) (bareSteps path) := by
  obtain ⟨-, -, hsegment⟩ := Path.of_fileName hname
  obtain ⟨hfilter, horigin⟩ := filter_bareSteps_fileName hname
  have hsolid : isSolid name = true := by simp [isSolid, hsegment.ne_empty, hsegment.ne_dot]
  rw [hnames, List.filter_append, List.filter_cons_of_pos hsolid, List.filter_nil,
    List.append_cancel_right_eq] at hfilter
  have hparent : ∀ other ∈ bareSteps (parentDir path), other ≠ "" := fun _ hmem =>
    Path.ne_empty_of_mem_bareSteps hmem
  have hinit : ∀ other ∈ init, other ≠ "" := fun other hmem =>
    Path.ne_empty_of_mem_bareSteps
      (hnames ▸ List.mem_append_left _ hmem : other ∈ bareSteps path)
  obtain ⟨hopen, hget⟩ := hreach
  rw [placeOf] at hget
  rw [horigin] at hopen hget
  generalize bareSteps (parentDir path) = front at hfilter hparent hopen hget
  have hdir : d.get? (place (origin cwd path) init) = some .directory := by
    rw [← Path.place_filter_isSolid hinit, hfilter, Path.place_filter_isSolid hparent, hget]
  rw [hnames, open_append, ← open_filter_iff hinit hdir, hfilter, open_filter_iff hparent hget]
  exact ⟨hopen, hdir, hshort, trivial⟩

/-- **A path that ends in dots** leads to no file. -/
theorem Disk.IsTree.get?_ne_file_of_dots (ht : d.IsTree) (hcheck : checkPath path = .ok ())
    (hopen : d.Open (origin cwd path) (bareSteps path)) (h : endsInDots (bareSteps path) = true)
    (bytes : ByteArray) : d.get? (placeOf cwd path) ≠ some (.file bytes) := by
  rw [placeOf]
  rcases exists_of_endsInDots h with hnil | ⟨dots, hnames, hdot⟩
  · have hroot : Path.isAbsolute path = true := by
      by_contra habs
      exact bareSteps_ne_nil (of_checkPath hcheck).2.1 (by simpa using habs) hnil
    simp [hnil, origin, hroot]
  · rw [hnames, open_append] at hopen
    rw [hnames, Disk.place_append, place_cons, Disk.place_nil, move]
    rcases hdot with rfl | rfl
    · simp [hopen.2.1]
    · simp [ht.get?_dropLast hopen.2.1]

end Names

/-! ### What is in the way of a file -/

/-- The name of the temporary file is free, also when the directories on the way have been made. -/
def World.Unclashed (w : World) (path : String) : Prop :=
  ∀ name, Path.fileName path = some name → ¬w.Taken (parentDir path) name w.counter ∧
    placeOf w.cwd (parentDir path) ++ [w.tempName name w.counter] ∉
      onTheWay w.cwd (parentDir path)

/-- **What is in the way of writing a file.** -/
inductive World.Hindered (w : World) (path : String) : Prop where
  /-- A file stands on the way to its directory. -/
  | blocked {names : List String} {bytes : ByteArray}
      (hnames : names <+: bareSteps (parentDir path))
      (hfile : w.disk.get? (place (origin w.cwd (parentDir path)) names) = some (.file bytes))
  /-- A directory stands in its place. -/
  | directory (hdir : w.disk.get? (placeOf w.cwd path) = some .directory)
  /-- The way to its directory leads through its place. -/
  | crossed (hplace : placeOf w.cwd path ∈ onTheWay w.cwd (parentDir path))
  /-- The path ends in a slash. -/
  | slash (hslash : path.toList.getLast? = some '/')
  /-- The path ends in a dot or in two, or there is nothing that it could end in. -/
  | dots (hdots : endsInDots (bareSteps path) = true)
  /-- The character that ends texts is in the path. -/
  | nul (hnul : '\x00' ∈ path.toList)
  /-- The path has too many bytes. -/
  | longPath (hlong : Disk.pathLimit < path.utf8ByteSize)
  /-- A name in the path has too many bytes. -/
  | longName {name : String} (hname : name ∈ bareSteps path)
      (hlong : Disk.nameLimit < name.utf8ByteSize)
  /-- The name of the temporary file, or its path, has too many bytes. -/
  | longTemp {name : String} (hname : Path.fileName path = some name)
      (hlong : w.Overlong (parentDir path) name w.counter)

section Write

variable {w w' : World} {path : String} {bytes : ByteArray} {result : Except GenError Unit}

/-- **Making the directory of a file that is written** has succeeded, and has changed no file. -/
theorem exists_createDirs_of_atomicWrite (ht : w.disk.IsTree)
    (hrun : (atomicWrite path bytes).run.run w = (.ok (), w')) :
    ∃ d, (createDirs (parentDir path)).run.run w = (.ok (), { w with disk := d }) ∧
      w.disk.Changes (onTheWay w.cwd (parentDir path)) ∅ d ∧
      d.isDirectory w.cwd (parentDir path) = true ∧
      (atomicWrite path bytes).run.run { w with disk := d } = (.ok (), w') := by
  have hmade := createDirs_run ht (parentDir path)
  rcases hdirs : (createDirs (parentDir path)).run.run w with ⟨e | u, w₁⟩
  · unfold atomicWrite at hrun
    dsimp only at hrun
    rw [Attempt.run_bind_error (Attempt.run_orFail_error hdirs)] at hrun
    cases hrun
  · obtain ⟨d, rfl⟩ := exists_createDirs_ok hdirs
    rw [hdirs] at hmade
    have hchanges : w.disk.Changes _ ∅ d := hmade.edits.disk
    have hdir : d.isDirectory w.cwd (parentDir path) = true :=
      hmade.isDirectory rfl (parentDir_ne_empty path)
    have hagain : (atomicWrite path bytes).run.run w =
        (atomicWrite path bytes).run.run { w with disk := d } :=
      atomicWrite_run_of_createDirs hchanges.tree hdir hdirs
    exact ⟨d, rfl, hchanges, hdir, hagain.symm.trans hrun⟩

/-- **Which number a temporary file draws first** decides, if it is too long. -/
theorem createTemp_overlong {dir name : String} (h : w.disk.IsTree)
    (hdir : w.disk.isDirectory w.cwd dir = true) (hname : Path.IsSegment name)
    (hnul : '\x00' ∉ name.toList) (hlong : w.Overlong dir name w.counter) :
    (Attempt.ofProgram (Program.request (.createTemp dir name)) :
      Attempt DiskError String).run.run w =
        (.error .nameTooLong, { w with counter := w.counter + 1 }) := by
  obtain ⟨k, hsettles, hcases⟩ := createTemp_settles h hdir hname hnul
  have hfirst : w.Settles dir name w.counter w.counter :=
    ⟨le_rfl, fun j hle hlt => by omega, Or.inr hlong⟩
  obtain rfl := hsettles.unique hfirst
  rcases hcases with ⟨-, hrun⟩ | ⟨hshort, -⟩
  · exact hrun
  · exact absurd hlong hshort

/-- **Without a temporary file nothing is written**: if its name is too long, the run fails. -/
theorem atomicWrite_ne_ok_of_overlong {name : String} (ht : w.disk.IsTree)
    (hparent : w.disk.isDirectory w.cwd (parentDir path) = true)
    (hcheck : Disk.checkPath path = .ok ()) (hname : Path.fileName path = some name)
    (hlong : w.Overlong (parentDir path) name w.counter) :
    (atomicWrite path bytes).run.run w ≠ (.ok (), w') := by
  intro hrun
  obtain ⟨before, hback, hsegment⟩ := Path.of_fileName hname
  have hnul : '\x00' ∉ name.toList := fun hc =>
    (Disk.of_checkPath hcheck).1
      (Path.of_mem_pieces (Path.mem_pieces_of_reversedPieces hback) _ hc).1
  have htemp := createTemp_overlong ht hparent hsegment hnul hlong
  unfold atomicWrite at hrun
  dsimp only at hrun
  rw [Attempt.run_bind_ok (Attempt.run_orFail_ok (createDirs_of_isDirectory ht hparent)),
    hname] at hrun
  dsimp only at hrun
  rw [Attempt.run_bind_error (Attempt.run_orFail_error htemp)] at hrun
  cases hrun

/-- **A file that is hindered is not written.** -/
theorem World.Hindered.ne_ok (hw : w.Hindered path) (ht : w.disk.IsTree)
    (hrun : (atomicWrite path bytes).run.run w = (result, w')) : result ≠ .ok () := by
  rintro rfl
  obtain ⟨d, -, hchanges, hparent, hrun₁⟩ := exists_createDirs_of_atomicWrite ht hrun
  obtain ⟨-, hopen₁, hget₁⟩ := hchanges.tree.isDirectory_iff.mp hparent
  have hwritten := atomicWrite_run (w := { w with disk := d }) hchanges.tree path bytes
  rw [hrun₁] at hwritten
  have hedits : World.Edits _ _ _ w' := hwritten.edits
  have hread : w'.disk.readFile w'.cwd path = .ok bytes := hwritten.readFile rfl
  -- the file can be read, so its path can be followed to the end, and no directory is there
  obtain ⟨hcheck, hsteps, hget⟩ := hedits.tree.readFile_eq_ok_iff.mp hread
  obtain ⟨hnul, hne, hsize⟩ := Disk.of_checkPath hcheck
  obtain ⟨hopen, hslash⟩ := Disk.open_steps.mp hsteps
  have hcwd : w'.cwd = w.cwd := hedits.cwd
  rw [hcwd] at hopen hslash hget
  have hnodir : w'.disk.get? (placeOf w.cwd path) ≠ some .directory := by simp [hget]
  have hkeep := hedits.disk.keepsDirectories (placeOf w.cwd path)
  cases hw with
  | blocked hnames hfile =>
    have hdir := hopen₁.get?_of_prefix hget₁ hnames
    rw [hchanges.get?_file hfile (Set.notMem_empty _)] at hdir
    cases hdir
  | directory hdir => exact hnodir (hkeep (hchanges.keepsDirectories _ hdir))
  | crossed hplace =>
    obtain ⟨names, -, hnames, hplace⟩ := hplace
    refine hnodir (hkeep ?_)
    rw [hplace]
    exact hopen₁.get?_of_prefix hget₁ hnames
  | slash hlast =>
    have hnil : bareSteps path = [] := by
      by_contra hnil
      exact hnodir (hslash ⟨hlast, hnil⟩)
    refine hedits.tree.get?_ne_file_of_dots hcheck hopen (by simp [hnil, endsInDots]) bytes hget
  | dots hdots => exact hedits.tree.get?_ne_file_of_dots hcheck hopen hdots bytes hget
  | nul hmem => exact hnul hmem
  | longPath hlong => omega
  | longName hname hlong =>
    have hshort := hopen.short _ hname
    omega
  | longTemp hname hlong =>
    exact atomicWrite_ne_ok_of_overlong (w := { w with disk := d }) hchanges.tree hparent hcheck
      hname hlong hrun₁

/-- The path of a file that is not hindered can be followed. -/
theorem World.checkPath_of_not_hindered (hw : ¬w.Hindered path) : Disk.checkPath path = .ok () := by
  refine Disk.checkPath_eq_ok_iff.mpr ⟨fun hnul => hw (.nul hnul), ?_,
    Nat.not_lt.mp fun hlong => hw (.longPath hlong)⟩
  rintro rfl
  exact hw (.dots (by decide))

/-- Nothing hinders the directory of a file that is not hindered. -/
theorem World.passable_parentDir (hcwd : w.disk.get? w.cwd = some .directory)
    (hw : ¬w.Hindered path) : w.disk.Passable w.cwd (parentDir path) := by
  have hstart : ∀ p, w.disk.get? (origin w.cwd p) = some .directory := by
    intro p
    rw [origin]
    split
    · rfl
    · exact hcwd
  have hfree : ∀ first, first <+: bareSteps (parentDir path) → ∀ bytes,
      w.disk.get? (place (origin w.cwd (parentDir path)) first) ≠ some (.file bytes) :=
    fun first hfirst bytes hfile => hw (.blocked hfirst hfile)
  rcases parentDir_eq path with hdot | ⟨ys, hys, -, hne, hparent⟩
  · refine ⟨?_, hstart _, fun name hname => ?_, hfree⟩
    · rw [hdot]
      decide
    · rw [hdot, show bareSteps "." = ["."] by decide, List.mem_singleton] at hname
      rw [hname]
      decide
  · refine ⟨?_, hstart _, fun name hname => ?_, hfree⟩
    · rw [hparent] at hne ⊢
      exact Disk.checkPath_ofReversed (checkPath_of_not_hindered hw) hys hne
    · rw [hparent] at hne hname
      have hmem := (Path.of_ofReversed hys hne).1.subset hname
      exact Nat.not_lt.mp fun hlong => hw (.longName hmem hlong)

/-- **Bytes can be put at a path** that leads to no directory. -/
theorem Disk.IsTree.exists_replace {d : Disk} {cwd : Location} {name : String}
    {init : List String} (ht : d.IsTree) (hcheck : checkPath path = .ok ())
    (hname : Path.fileName path = some name) (hnames : bareSteps path = init ++ [name])
    (hshort : name.utf8ByteSize ≤ nameLimit) (hslash : path.toList.getLast? ≠ some '/')
    (hreach : d.Reaches cwd (parentDir path)) (hfree : d.get? (placeOf cwd path) ≠ some .directory)
    (bytes : ByteArray) : ∃ d', d.replace cwd path bytes = .ok d' := by
  obtain ⟨-, -, hsegment⟩ := Path.of_fileName hname
  have hdots : endsInDots (bareSteps path) = false := by
    simp [endsInDots, hnames, hsegment.ne_dot, hsegment.ne_up]
  have hopen := hreach.open_fileName hname hnames hshort
  have hwalk : d.walk false linkLimit (origin cwd path) (bareSteps path) =
      .ok (d.targetAt (placeOf cwd path)) :=
    (ht.walk_eq_ok_iff (start_of_ne_empty d cwd (of_checkPath hcheck).2.1)).mpr ⟨hopen, rfl⟩
  have hasks : asksForDirectory path = false := by simpa [asksForDirectory] using hslash
  rw [replace, resolveBare, hcheck]
  simp only [bind, Except.bind, hdots, Bool.false_eq_true, if_false, hwalk, hasks, targetAt]
  cases hget : d.get? (placeOf cwd path) with
  | none => exact ⟨_, rfl⟩
  | some entry =>
    cases entry with
    | directory => exact absurd hget hfree
    | file old => exact ⟨_, rfl⟩
    | link target => exact ⟨_, rfl⟩

/-- **A file is written into a directory that is there**, if the first number serves and the bytes
can be put at the path. -/
theorem exists_atomicWrite_of_isDirectory {name : String} {d : Disk} (ht : w.disk.IsTree)
    (hdir : w.disk.isDirectory w.cwd (parentDir path) = true)
    (hname : Path.fileName path = some name) (hnul : '\x00' ∉ name.toList)
    (hfree : ¬w.Taken (parentDir path) name w.counter)
    (hshort : ¬w.Overlong (parentDir path) name w.counter)
    (hreplace : w.disk.replace w.cwd path bytes = .ok d) :
    ∃ w', (atomicWrite path bytes).run.run w = (.ok (), w') := by
  obtain ⟨-, -, hsegment⟩ := Path.of_fileName hname
  obtain ⟨k, hsettles, hcases⟩ := createTemp_settles ht hdir hsegment hnul
  have hfirst : w.Settles (parentDir path) name w.counter w.counter :=
    ⟨le_rfl, fun j hle hlt => by omega, Or.inl hfree⟩
  obtain rfl := hsettles.unique hfirst
  obtain ⟨-, d₁, hcreate, htemp⟩ := hcases.resolve_left fun hlong => hshort hlong.1
  rw [atomicWrite_run_of_drawn ht hdir hname hcreate htemp, hreplace]
  exact ⟨_, rfl⟩

/-- **A file that is not hindered is written.** -/
theorem exists_atomicWrite_ok (ht : w.disk.IsTree) (hcwd : w.disk.get? w.cwd = some .directory)
    (hclash : w.Unclashed path) (hw : ¬w.Hindered path) (bytes : ByteArray) :
    ∃ w', (atomicWrite path bytes).run.run w = (.ok (), w') := by
  have hmade := createDirs_run ht (parentDir path)
  obtain ⟨w₁, hdirs⟩ := createDirs_parentDir ht (World.passable_parentDir hcwd hw)
  obtain ⟨d, rfl⟩ := exists_createDirs_ok hdirs
  rw [hdirs] at hmade
  have hchanges : w.disk.Changes _ ∅ d := hmade.edits.disk
  have hdir : d.isDirectory w.cwd (parentDir path) = true :=
    hmade.isDirectory rfl (parentDir_ne_empty path)
  obtain ⟨name, init, hname, hnames⟩ :=
    exists_fileName (Bool.eq_false_iff.mpr fun hdots => hw (.dots hdots))
  have hmem : name ∈ bareSteps path := by simp [hnames]
  have hnul : '\x00' ∉ name.toList := fun hc =>
    hw (.nul (Path.of_mem_pieces (List.mem_of_mem_filter hmem) _ hc).1)
  -- making directories has neither taken the number nor put one in the place of the file
  obtain ⟨hvacant, hoff⟩ := hclash name hname
  have hsame := hchanges.get?_eq_of_notMem hoff (Set.notMem_empty _)
  have hfree : ¬World.Taken { w with disk := d } (parentDir path) name w.counter := fun htaken =>
    hvacant fun hnone => htaken (hsame.trans hnone)
  have hplace : d.get? (placeOf w.cwd path) ≠ some .directory := fun hget =>
    (hchanges.directory_or_mem hget).elim (fun h => hw (.directory h)) fun h => hw (.crossed h)
  obtain ⟨d', hreplace⟩ := hchanges.tree.exists_replace (World.checkPath_of_not_hindered hw) hname
    hnames (Nat.not_lt.mp fun hlong => hw (.longName hmem hlong)) (fun hlast => hw (.slash hlast))
    (hchanges.tree.isDirectory_iff_reaches.mp hdir).2 hplace bytes
  have hagain : (atomicWrite path bytes).run.run w =
      (atomicWrite path bytes).run.run { w with disk := d } :=
    atomicWrite_run_of_createDirs hchanges.tree hdir hdirs
  rw [hagain]
  exact exists_atomicWrite_of_isDirectory (w := { w with disk := d }) hchanges.tree hdir hname hnul
    hfree (fun hlong => hw (.longTemp hname ((World.overlong_congr rfl).mp hlong))) hreplace

/-- **A file is written whole or not at all.** After a success the bytes are at the path, and every
other file is what it was; after a failure all files are what they were. Directories stay, and the
new ones are on the way to the directory of the path. A file that is hindered is not written, and
one that is not hindered is. -/
theorem atomicWrite_all_or_nothing (ht : w.disk.IsTree)
    (hrun : (atomicWrite path bytes).run.run w = (result, w')) :
    w'.disk.IsTree ∧
      (result = .ok () →
        w'.disk.readFile w.cwd path = .ok bytes ∧
        w'.disk.get? (placeOf w.cwd path) = some (.file bytes) ∧
        ∀ loc, loc ≠ placeOf w.cwd path → ∀ old,
          w'.disk.get? loc = some (.file old) ↔ w.disk.get? loc = some (.file old)) ∧
      (∀ e, result = .error e → ∀ loc old,
        w'.disk.get? loc = some (.file old) ↔ w.disk.get? loc = some (.file old)) ∧
      (∀ loc, w.disk.get? loc = some .directory → w'.disk.get? loc = some .directory) ∧
      (∀ loc, w'.disk.get? loc = some .directory →
        w.disk.get? loc = some .directory ∨ loc ∈ onTheWay w.cwd (parentDir path)) ∧
      (w.Hindered path → ∃ e, result = .error e) ∧
      (w.disk.get? w.cwd = some .directory → w.Unclashed path → ¬w.Hindered path →
        result = .ok ()) := by
  have hwritten := atomicWrite_run ht path bytes
  rw [hrun] at hwritten
  have hedits : w.Edits _ _ w' := hwritten.edits
  refine ⟨hedits.tree, ?_, ?_, hedits.disk.keepsDirectories,
    fun loc hdir => hedits.disk.directory_or_mem hdir, ?_, ?_⟩
  · rintro rfl
    have hread : w'.disk.readFile w'.cwd path = .ok bytes := hwritten.readFile rfl
    rw [hedits.cwd] at hread
    exact ⟨hread, (hedits.tree.readFile_eq_ok_iff.mp hread).2.2, fun loc hloc old =>
      hedits.disk.get?_file_iff hloc old⟩
  · rintro e rfl loc old
    have huntouched : w.Edits _ ∅ w' := hwritten.untouched e rfl
    exact huntouched.disk.get?_file_iff (Set.notMem_empty _) old
  · intro hw
    cases result with
    | error e => exact ⟨e, rfl⟩
    | ok u => exact absurd rfl (hw.ne_ok ht hrun)
  · intro hcwd hclash hw
    obtain ⟨w₁, hok⟩ := exists_atomicWrite_ok ht hcwd hclash hw bytes
    exact congrArg Prod.fst (hrun.symm.trans hok)

end Write

/-- A working directory with a single file. -/
def oneFile : World :=
  .start ⟨[(["work"], .directory), (["work", "old"], .file "text".toUTF8)]⟩ ["work"]

/-- A file beside it is written, and one below it is not. The file stays either way. -/
theorem atomicWrite_all_or_nothing_oneFile : oneFile.disk.IsTree ∧
    (∃ w', (atomicWrite "new/name" .empty).run.run oneFile = (.ok (), w') ∧
      w'.disk.readFile ["work"] "new/name" = .ok .empty ∧
      w'.disk.get? ["work", "old"] = some (.file "text".toUTF8)) ∧
    ∃ e w', (atomicWrite "old/name" .empty).run.run oneFile = (.error e, w') ∧
      w'.disk.get? ["work", "old"] = some (.file "text".toUTF8) := by
  have htree : oneFile.disk.IsTree := by decide +kernel
  have hold : oneFile.disk.get? ["work", "old"] = some (.file "text".toUTF8) := by decide +kernel
  have hplace : ["work", "old"] ≠ placeOf oneFile.cwd "new/name" := by decide +kernel
  have hok : ((atomicWrite "new/name" .empty).run.run oneFile).1 = .ok () := by decide +kernel
  have hway : ["old"] <+: bareSteps (parentDir "old/name") := by decide +kernel
  have hblocked : oneFile.Hindered "old/name" := .blocked hway hold
  rcases hrun : (atomicWrite "new/name" .empty).run.run oneFile with ⟨result, w₁⟩
  rcases hrun' : (atomicWrite "old/name" .empty).run.run oneFile with ⟨result', w₂⟩
  rw [hrun] at hok
  obtain ⟨-, hwritten, -⟩ := atomicWrite_all_or_nothing htree hrun
  obtain ⟨hread, -, hothers⟩ := hwritten hok
  obtain ⟨-, -, huntouched, -, -, hfails, -⟩ := atomicWrite_all_or_nothing htree hrun'
  obtain ⟨e, herror⟩ := hfails hblocked
  exact ⟨htree, ⟨w₁, Prod.ext hok rfl, hread, (hothers _ hplace _).mpr hold⟩,
    e, w₂, Prod.ext herror rfl, (huntouched e herror _ _).mpr hold⟩

end TwinTypes
