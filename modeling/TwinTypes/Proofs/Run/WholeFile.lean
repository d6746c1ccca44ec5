import TwinTypes.Proofs.Run.Effect
import TwinTypes.Run.Write

/-!
# Directories made and files written whole

The two things that generating does to a disk, each with what it changes and what it leaves behind
when it succeeds.

* `createDirs_run`: making a directory makes directories on the way to it
  (`TwinTypes.Disk.onTheWay`), whether or not it succeeds, and changes nothing else.
* `atomicWrite_run`: writing a file whole either succeeds, and then the bytes can be read where they
  were written, or it fails, and then no file has changed. Either way directories may have been made
  on the way to the directory of the file.

Neither depends on why an operation fails, so no statement here lists failures.
-/

namespace TwinTypes

open Disk (bareSteps origin place placeOf)

/-- **The places on the way that a path takes**, the place that it denotes included and the one
where it begins not. -/
def Disk.onTheWay (cwd : Location) (path : String) : Set Location :=
  {loc | ∃ names, names ≠ [] ∧ names <+: bareSteps path ∧ loc = place (origin cwd path) names}

/-- A path that leads to a path is on the way. -/
theorem Disk.onTheWay_of_mem_ancestors {cwd : Location} {path a : String}
    (h : a ∈ Path.ancestors path) (hne : a ≠ "") (hsteps : bareSteps a ≠ []) :
    {placeOf cwd a} ⊆ Disk.onTheWay cwd path := by
  rintro loc rfl
  obtain ⟨hinit, habs⟩ := Path.of_mem_ancestors h hne
  refine ⟨bareSteps a, hsteps, hinit, ?_⟩
  rw [placeOf, origin, origin, habs]

theorem Disk.onTheWay_join (cwd : Location) (path : String) {name : String}
    (h : Path.IsSegment name) :
    Disk.onTheWay cwd (Path.join path name) ⊆
      insert (placeOf cwd path ++ [name]) (Disk.onTheWay cwd path) := by
  have habs := Path.isAbsolute_of_notMem h.slash
  rintro loc ⟨names, hne, hinit, rfl⟩
  rw [Path.bareSteps_join habs, h.bareSteps, List.prefix_concat_iff] at hinit
  rw [Disk.origin_join habs]
  rcases hinit with rfl | hinit
  · left
    rw [Disk.place_append, Disk.place_cons, Disk.place_nil, Disk.move_of_isSegment h]
    rfl
  · exact Or.inr ⟨names, hne, hinit, rfl⟩

/-- **Only the two dots lead further away** than to the place that a path denotes. -/
theorem Disk.up_mem_of_onTheWay {cwd loc : Location} {path : String}
    (hlong : (placeOf cwd path).length < loc.length) (hloc : loc ∈ onTheWay cwd path) :
    ".." ∈ bareSteps path := by
  by_contra hup
  obtain ⟨names, -, ⟨rest, hrest⟩, rfl⟩ := hloc
  have hbelow : Disk.place (Disk.origin cwd path) names <+: placeOf cwd path := by
    rw [placeOf, ← hrest, Disk.place_append]
    exact Disk.isPrefix_place (fun hc => hup (hrest ▸ List.mem_append_right _ hc)) _
  have hle := hbelow.length_le
  omega

section Directories

variable {w : World} {path : String}

theorem run_makeDir (path : String) (w : World) :
    (makeDir path).run w = w.change (w.disk.makeDir w.cwd path) := rfl

/-- Making a single directory succeeds, or leaves the world as it is. -/
theorem makeDir_cases (h : w.disk.IsTree) (path : String) :
    (((makeDir path).run w).1 = .ok () ∧ bareSteps path ≠ [] ∧
        w.Edits {placeOf w.cwd path} ∅ ((makeDir path).run w).2 ∧
        ((makeDir path).run w).2.disk.isDirectory ((makeDir path).run w).2.cwd path = true) ∨
      ∃ e, (makeDir path).run w = (.error e, w) := by
  rw [run_makeDir]
  cases hm : w.disk.makeDir w.cwd path with
  | error e => exact Or.inr ⟨e, rfl⟩
  | ok d =>
    obtain ⟨hne, hchanges, hdir⟩ := h.of_makeDir hm
    exact Or.inl ⟨rfl, hne, ⟨rfl, rfl, hchanges⟩, hdir⟩

theorem run_unlessDirectory (path : String) (e : DiskError) (w : World) :
    (unlessDirectory path e).run.run w =
      (if w.disk.isDirectory w.cwd path then .ok () else .error e, w) := by
  unfold unlessDirectory
  rw [Attempt.run_always_bind]
  change (if w.disk.isDirectory w.cwd path = true then pure () else throw e :
    Attempt DiskError Unit).run.run w = _
  split <;> rfl

/-- What making directories leaves behind: directories on the way alone, and if it succeeds the one
asked for, unless its path is empty. -/
structure Made (dirs : Set Location) (path : String) (w : World)
    (result : Except DiskError Unit × World) : Prop where
  /-- Directories may have been made. -/
  edits : w.Edits dirs ∅ result.2
  /-- The directory is there. -/
  isDirectory : result.1 = .ok () → path ≠ "" → result.2.disk.isDirectory result.2.cwd path = true

/-- The last word is whether the directory is there. -/
theorem made_unlessDirectory {dirs : Set Location} {w' : World} (hw : w.Edits dirs ∅ w')
    (path : String) (e : DiskError) : Made dirs path w ((unlessDirectory path e).run.run w') := by
  rw [run_unlessDirectory]
  refine ⟨hw, fun hok _ => ?_⟩
  simp only at hok
  split at hok
  · assumption
  · cases hok

/-- A second try at making the directory, once those on the way have been made. -/
theorem made_retry {dirs : Set Location} {w' : World} (hw : w.Edits dirs ∅ w')
    (hdirs : bareSteps path ≠ [] → {placeOf w.cwd path} ⊆ dirs) :
    Made dirs path w ((do
      match ← Attempt.always (makeDir path) with
      | .ok _ => pure ()
      | .error e => unlessDirectory path e : Attempt DiskError Unit).run.run w') := by
  rw [Attempt.run_always_bind]
  rcases makeDir_cases hw.tree path with ⟨hok, hne, hedits, hdir⟩ | ⟨e, he⟩
  · rw [hok]
    rw [hw.cwd] at hedits
    exact ⟨hw.trans (hedits.mono (hdirs hne) subset_rfl), fun _ _ => hdir⟩
  · rw [he]
    exact made_unlessDirectory hw path e

/-- Making the directory at the front, the others being made on the way if it cannot be made at
once. -/
theorem made_createDirsAlong (h : w.disk.IsTree) {dirs : Set Location} {rest : List String}
    (hpath : path ≠ "" → bareSteps path ≠ [] → {placeOf w.cwd path} ⊆ dirs)
    (hrest : w.Edits dirs ∅ ((createDirsAlong rest).run.run w).2) :
    Made dirs path w ((createDirsAlong (path :: rest)).run.run w) := by
  rw [createDirsAlong]
  split
  · rename_i hempty
    exact ⟨.refl h, fun _ hne => absurd (String.isEmpty_iff.mp hempty) hne⟩
  · rename_i hempty
    have hne : path ≠ "" := fun hc => hempty (by simp [hc])
    rw [Attempt.run_always_bind]
    rcases makeDir_cases h path with ⟨hok, hsteps, hedits, hdir⟩ | ⟨e, he⟩
    · rw [hok]
      exact ⟨hedits.mono (hpath hne hsteps) subset_rfl, fun _ _ => hdir⟩
    · rw [he]
      -- only a missing parent is answered by making the others and trying again
      split
      · rename_i hok
        cases hok
      · rcases hr : (createDirsAlong rest).run.run w with ⟨e' | ok, w'⟩
        · rw [Attempt.run_bind_error hr]
          rw [hr] at hrest
          exact ⟨hrest, fun hok => by cases hok⟩
        · rw [Attempt.run_bind_ok hr]
          rw [hr] at hrest
          exact made_retry hrest (hpath hne)
      · exact made_unlessDirectory (.refl h) path _

/-- **Making directories, each in the next one.** -/
theorem createDirsAlong_run (h : w.disk.IsTree) {dirs : Set Location} {paths : List String}
    (hdirs : ∀ p ∈ paths, p ≠ "" → bareSteps p ≠ [] → {placeOf w.cwd p} ⊆ dirs) :
    w.Edits dirs ∅ ((createDirsAlong paths).run.run w).2 ∧
      ∀ path ∈ paths.head?, Made dirs path w ((createDirsAlong paths).run.run w) := by
  induction paths with
  | nil => exact ⟨.refl h, by simp⟩
  | cons path rest ih =>
    have hmade : Made dirs path w ((createDirsAlong (path :: rest)).run.run w) :=
      made_createDirsAlong h (hdirs path (by simp)) (ih fun p hp => hdirs p (by simp [hp])).1
    refine ⟨hmade.edits, fun p hp => ?_⟩
    obtain rfl : path = p := by simpa using hp
    exact hmade

/-- **Making a directory** makes directories on the way to it alone. -/
theorem createDirs_run (h : w.disk.IsTree) (path : String) :
    Made (Disk.onTheWay w.cwd path) path w ((createDirs path).run.run w) := by
  have hhead : (Path.ancestors path).head? = some path := by
    unfold Path.ancestors
    split <;> rfl
  exact (createDirsAlong_run h fun p hp hne hsteps =>
    Disk.onTheWay_of_mem_ancestors hp hne hsteps).2 path hhead

end Directories

/-- The directory of a file in a directory. -/
theorem parentDir_join_join (path : String) {last name : String} (hlast : Path.IsSegment last)
    (hname : Path.IsSegment name) :
    parentDir (Path.join (Path.join path last) name) = Path.join path last := by
  have hne : Path.join path last ≠ "" := by
    intro hempty
    obtain ⟨before, hpieces⟩ := Path.exists_pieces_join path hlast.slash
    have hl := congrArg List.getLast? hpieces
    rw [hempty, Path.pieces_of_notMem (by simp)] at hl
    simp [eq_comm, hlast.ne_empty] at hl
  rw [parentDir, Path.parent_join_join path hlast hname]
  simp [hne]

section Files

variable {w : World} {path temp : String} {bytes : ByteArray}

theorem World.createTemp_cases (w : World) (dir name : String) (fuel number : Nat) :
    (∃ k d n, w.disk.createFile w.cwd (Path.join dir (w.tempName name k)) = .ok d ∧
        w.createTemp dir name fuel number =
          (.ok (Path.join dir (w.tempName name k)), { w with disk := d, counter := n })) ∨
      ∃ e n, w.createTemp dir name fuel number = (.error e, { w with counter := n }) := by
  induction fuel generalizing number with
  | zero => exact Or.inr ⟨_, _, rfl⟩
  | succ fuel ih =>
    unfold World.createTemp
    dsimp only
    split
    · rename_i d hd
      exact Or.inl ⟨_, d, _, hd, rfl⟩
    · exact ih (number + 1)
    · rename_i e _ _
      exact Or.inr ⟨e, _, rfl⟩

/-- **A temporary file is created**, under some number, or nothing happens. -/
theorem createTemp_cases (w : World) (dir name : String) :
    (∃ k d n, w.disk.createFile w.cwd (Path.join dir (w.tempName name k)) = .ok d ∧
        (Attempt.ofProgram (Program.request (.createTemp dir name)) :
          Attempt DiskError String).run.run w =
            (.ok (Path.join dir (w.tempName name k)), { w with disk := d, counter := n })) ∨
      ∃ e n, (Attempt.ofProgram (Program.request (.createTemp dir name)) :
        Attempt DiskError String).run.run w = (.error e, { w with counter := n }) :=
  w.createTemp_cases dir name (w.disk.entries.length + 1) w.counter

/-- Once the file has been filled, all depends on whether it can be renamed. -/
theorem fillAndMove_run {d : Disk} (h : w.disk.appendFile w.cwd temp bytes = .ok d)
    (path : String) :
    (fillAndMove temp path bytes).run.run w =
      { w with disk := d }.change (d.renameFile w.cwd temp path) := by
  have happend : (Attempt.ofProgram (Program.request (.append temp bytes))).run.run w =
      (.ok (), { w with disk := d }) := by
    change w.change (w.disk.appendFile w.cwd temp bytes) = _
    rw [h]
    rfl
  unfold fillAndMove
  rw [Attempt.run_bind_ok happend]
  rfl

theorem discard_run {d : Disk} (h : w.disk.removeFile w.cwd temp = .ok d) :
    (discard temp).run w = ((), { w with disk := d }) := by
  unfold discard
  rw [Program.run_bind, Program.run_request, World.answer, h]
  rfl

/-- What writing a file whole leaves behind: the file if it succeeds, and no trace of it otherwise.
Directories may have been made either way. -/
structure Written (dirs : Set Location) (path : String) (bytes : ByteArray) (w : World)
    (result : Except GenError Unit × World) : Prop where
  /-- The file may have been written, and directories made. -/
  edits : w.Edits dirs {placeOf w.cwd path} result.2
  /-- The bytes can be read. -/
  readFile : result.1 = .ok () → result.2.disk.readFile result.2.cwd path = .ok bytes
  /-- A failure leaves the files as they are. -/
  untouched : ∀ e, result.1 = .error e → w.Edits dirs ∅ result.2

theorem Written.of_error {dirs : Set Location} {w' : World} {e : GenError} (h : w.Edits dirs ∅ w') :
    Written dirs path bytes w (.error e, w') :=
  ⟨h.mono subset_rfl (Set.empty_subset _), nofun, fun _ _ => h⟩

/-- Directories may be made before a file is written. -/
theorem Written.after {dirs : Set Location} {w₁ : World} {result : Except GenError Unit × World}
    (h : Written ∅ path bytes w₁ result) (hedits : w.Edits dirs ∅ w₁) :
    Written dirs path bytes w result where
  edits := by
    have hfiles := h.edits
    rw [hedits.cwd] at hfiles
    exact (hedits.mono subset_rfl (Set.empty_subset _)).trans
      (hfiles.mono (Set.empty_subset _) subset_rfl)
  readFile := h.readFile
  untouched e he := hedits.trans ((h.untouched e he).mono (Set.empty_subset _) subset_rfl)

/-- Filling a file that was just created and moving it, or else removing it. -/
theorem written_fillAndMove {d : Disk} {n : Nat} (h : w.disk.IsTree)
    (hc : w.disk.createFile w.cwd temp = .ok d) :
    Written ∅ path bytes w ((do
      match ← (fillAndMove temp path bytes).outcome with
      | .ok _ => pure ()
      | .error e => do
        Attempt.always (discard temp)
        throw (.io path e) : Attempt GenError Unit).run.run
          { w with disk := d, counter := n }) := by
  obtain ⟨d₂, happend, hfilled⟩ := h.exists_appendFile hc bytes
  have hrun := fillAndMove_run (w := { w with disk := d, counter := n }) happend path
  rw [Attempt.run_outcome_bind, hrun]
  cases hr : d₂.renameFile w.cwd temp path with
  | ok d₃ =>
    obtain ⟨hchanges, hread⟩ := hfilled.of_renameFile hr
    refine ⟨⟨rfl, rfl, ?_⟩, fun _ => hread, nofun⟩
    exact hchanges
  | error e =>
    obtain ⟨d₃, hremove, hchanges⟩ := hfilled.exists_removeFile
    have hdiscard := discard_run (w := { w with disk := d₂, counter := n }) hremove
    simp only [World.change]
    rw [Attempt.run_always_bind, hdiscard]
    exact .of_error ⟨rfl, rfl, hchanges ∅ ∅⟩

/-- **Writing a file whole.** -/
theorem atomicWrite_run (h : w.disk.IsTree) (path : String) (bytes : ByteArray) :
    Written (Disk.onTheWay w.cwd (parentDir path)) path bytes w
      ((atomicWrite path bytes).run.run w) := by
  have hmade := createDirs_run h (parentDir path)
  unfold atomicWrite
  simp only
  rcases hdirs : (createDirs (parentDir path)).run.run w with ⟨e | u, w₁⟩
  · rw [hdirs] at hmade
    rw [Attempt.run_bind_error (Attempt.run_orFail_error hdirs)]
    exact .of_error hmade.edits
  · rw [hdirs] at hmade
    have hedits : w.Edits _ ∅ w₁ := hmade.edits
    rw [Attempt.run_bind_ok (Attempt.run_orFail_ok hdirs)]
    split
    · exact .of_error hedits
    · rename_i name _
      -- a name that could not be taken leaves nothing but a counter that went on
      rcases createTemp_cases w₁ (parentDir path) name with ⟨k, d, n, hc, htemp⟩ | ⟨e, n, htemp⟩
      · rw [Attempt.run_bind_ok (Attempt.run_orFail_ok htemp)]
        exact (written_fillAndMove hedits.tree hc).after hedits
      · rw [Attempt.run_bind_error (Attempt.run_orFail_error htemp)]
        exact .of_error (hedits.trans ⟨rfl, rfl, .refl hedits.tree⟩)

end Files

end TwinTypes
