import TwinTypes.Proofs.Run.Numbering

/-!
# When a run succeeds

What a run needs is room for each of its pairs (`TwinTypes.Disk.Room`): no file where the directory
of a pair should be, no directory where a file should be, and names and paths that are short enough.
A run that has succeeded had it (`room_of_leaves`), and no pair takes it from another one
(`TwinTypes.Ready.of_changes`), so it is a matter of the disk at the beginning and not of the order
of the pairs.

Where there is room for all pairs only the numbers of temporary files can stand in the way.
`generateAll_spends` says so: the run goes through all pairs and each file draws its number, or it
ends at the first file whose number is too long.
-/

namespace TwinTypes

open Disk (Reaches bareSteps onTheWay origin place placeOf)

/-! ### What never changes -/

theorem World.answer_process (w : World) (r : Request) : (w.answer r).2.process = w.process := by
  have hchange : ∀ result : Except DiskError Disk, (w.change result).2.process = w.process := by
    rintro (e | d) <;> rfl
  cases r with
  | makeDir path => exact hchange _
  | append path bytes => exact hchange _
  | rename source target => exact hchange _
  | remove path => exact hchange _
  | createTemp dir name =>
    change (w.createTemp dir name _ _).2.process = w.process
    rcases w.createTemp_cases dir name (w.disk.entries.length + 1) w.counter with
      ⟨k, d, n, -, h⟩ | ⟨e, n, h⟩
    · rw [h]
    · rw [h]
  | isDirectory path => rfl
  | isFile path => rfl
  | readFile path => rfl
  | list path => rfl
  | sync path => rfl
  | startLog logger => rfl
  | report e => rfl
  | announce pair => rfl
  | print text => rfl
  | complain text => rfl

/-- **A process keeps its number.** -/
theorem Program.run_process {α : Type} (p : Program α) (w : World) :
    (p.run w).2.process = w.process := by
  induction p generalizing w with
  | done a => rfl
  | act r next ih => exact (ih (w.answer r).1 (w.answer r).2).trans (w.answer_process r)

/-! ### Programs that act on the disk alone -/

/-- **A program that acts on the disk alone**, and sees nothing else of the world but where it
works. -/
def Program.DiskOnly {α : Type} (p : Program α) : Prop :=
  ∀ w v : World, v.disk = w.disk → v.cwd = w.cwd →
    ∃ d, p.run w = ((p.run w).1, { w with disk := d }) ∧
      p.run v = ((p.run w).1, { v with disk := d })

namespace Program

variable {α β : Type} {p : Program α}

theorem diskOnly_pure (a : α) : (pure a : Program α).DiskOnly := by
  intro w v hdisk _
  refine ⟨w.disk, rfl, ?_⟩
  rw [← hdisk]
  rfl

/-- **One program after another** acts on the disk alone if both do. -/
theorem DiskOnly.bind {f : α → Program β} (hp : p.DiskOnly) (hf : ∀ a, (f a).DiskOnly) :
    (p >>= f).DiskOnly := by
  intro w v hdisk hcwd
  obtain ⟨d, hw, hv⟩ := hp w v hdisk hcwd
  obtain ⟨d', hw', hv'⟩ := hf (p.run w).1 { w with disk := d } { v with disk := d } rfl hcwd
  refine ⟨d', ?_, ?_⟩
  · rw [run_bind, hw]
    exact hw'
  · rw [run_bind, run_bind, hv, hw]
    exact hv'

theorem diskOnly_makeDir (path : String) : (makeDir path).DiskOnly := by
  intro w v hdisk hcwd
  have hsame : v.disk.makeDir v.cwd path = w.disk.makeDir w.cwd path := by rw [hdisk, hcwd]
  rw [run_makeDir, run_makeDir, hsame]
  rcases w.disk.makeDir w.cwd path with e | d
  · refine ⟨w.disk, rfl, ?_⟩
    rw [← hdisk]
    rfl
  · exact ⟨d, rfl, rfl⟩

theorem diskOnly_isDirectory (path : String) : (isDirectory path).DiskOnly := by
  intro w v hdisk hcwd
  have hrun : ∀ u : World, (isDirectory path).run u = (u.disk.isDirectory u.cwd path, u) :=
    fun _ => rfl
  have hsame : v.disk.isDirectory v.cwd path = w.disk.isDirectory w.cwd path := by
    rw [hdisk, hcwd]
  refine ⟨w.disk, rfl, ?_⟩
  rw [hrun, hrun, hsame, ← hdisk]

end Program

namespace Attempt

variable {ε α β : Type} {p : Attempt ε α}

theorem diskOnly_pure (a : α) : (pure a : Attempt ε α).run.DiskOnly :=
  Program.diskOnly_pure (Except.ok a)

theorem diskOnly_throw (e : ε) : (throw e : Attempt ε α).run.DiskOnly :=
  Program.diskOnly_pure (Except.error e)

theorem diskOnly_bind {f : α → Attempt ε β} (hp : p.run.DiskOnly) (hf : ∀ a, (f a).run.DiskOnly) :
    (p >>= f).run.DiskOnly := by
  rw [ExceptT.run_bind]
  refine hp.bind fun result => ?_
  cases result with
  | ok a => exact hf a
  | error e => exact diskOnly_throw e

theorem diskOnly_always {p : Program α} (h : p.DiskOnly) :
    (always p : Attempt ε α).run.DiskOnly :=
  h.bind fun a => diskOnly_pure a

end Attempt

theorem diskOnly_unlessDirectory (path : String) (e : DiskError) :
    (unlessDirectory path e).run.DiskOnly := by
  unfold unlessDirectory
  refine Attempt.diskOnly_bind (Attempt.diskOnly_always (Program.diskOnly_isDirectory path))
    fun isDir => ?_
  split
  · exact Attempt.diskOnly_pure ()
  · exact Attempt.diskOnly_throw e

theorem diskOnly_createDirsAlong (paths : List String) : (createDirsAlong paths).run.DiskOnly := by
  induction paths with
  | nil => exact Attempt.diskOnly_pure ()
  | cons path rest ih =>
    have hmake : (Attempt.always (makeDir path) : Attempt DiskError _).run.DiskOnly :=
      Attempt.diskOnly_always (Program.diskOnly_makeDir path)
    rw [createDirsAlong]
    split
    · exact Attempt.diskOnly_pure ()
    · refine Attempt.diskOnly_bind hmake fun result => ?_
      split
      · exact Attempt.diskOnly_pure ()
      · refine Attempt.diskOnly_bind ih fun _ => ?_
        refine Attempt.diskOnly_bind hmake fun result => ?_
        split
        · exact Attempt.diskOnly_pure ()
        · exact diskOnly_unlessDirectory path _
      · exact diskOnly_unlessDirectory path _

/-- **Making directories acts on the disk alone.** -/
theorem diskOnly_createDirs (path : String) : (createDirs path).run.DiskOnly :=
  diskOnly_createDirsAlong _

theorem exists_createDirs_ok {w w' : World} {path : String}
    (h : (createDirs path).run.run w = (.ok (), w')) : ∃ d, w' = { w with disk := d } := by
  obtain ⟨d, hw, -⟩ := diskOnly_createDirs path w w rfl rfl
  rw [h] at hw
  exact ⟨d, congrArg Prod.snd hw⟩

/-- **Directories that can be made** can be made in any world with that disk. -/
theorem createDirs_congr {w v : World} {path : String} {d : Disk}
    (h : (createDirs path).run.run w = (.ok (), { w with disk := d })) (hdisk : v.disk = w.disk)
    (hcwd : v.cwd = w.cwd) : (createDirs path).run.run v = (.ok (), { v with disk := d }) := by
  obtain ⟨d', hw, hv⟩ := diskOnly_createDirs path w v hdisk hcwd
  rw [h] at hw hv
  obtain rfl : d = d' := congrArg (fun result => result.2.disk) hw
  exact hv

/-! ### Room -/

/-- **There is room for the files of a pair.** -/
structure Disk.Room (d : Disk) (cwd : Location) (out : String) (pair : MappingPair) : Prop where
  /-- The directory has a path. -/
  nul : '\x00' ∉ (Path.join out pair.dirName).toList
  /-- The directory can be named. -/
  dirShort : ¬Disk.Overlong out pair.dirName
  /-- The files can be named. -/
  short : ∀ name ∈ artifactNames, ¬Disk.Overlong (Path.join out pair.dirName) name
  /-- The directory is there, or nothing is. -/
  dir : d.get? (pairPlace cwd out pair) = none ∨ d.get? (pairPlace cwd out pair) = some .directory
  /-- No file is a directory. -/
  files : ∀ name ∈ artifactNames, d.get? (pairPlace cwd out pair ++ [name]) ≠ some .directory

section Places

variable {d d' : Disk} {cwd : Location} {out : String} {pairs : List MappingPair}
  {pair : MappingPair} {loc : Location}

/-- **The way to a directory is made of directories.** -/
theorem Disk.Reaches.get?_of_onTheWay (h : d.Reaches cwd out) (hloc : loc ∈ onTheWay cwd out) :
    d.get? loc = some .directory := by
  obtain ⟨names, -, hinit, rfl⟩ := hloc
  exact h.opens.get?_of_prefix h.get? hinit

/-- **Where the output directory is there**, pairs change nothing but the places of their own
directories and files. -/
theorem Disk.Changes.get?_eq
    (h : d.Changes (directoriesOf cwd out pairs) (filesOf cwd out pairs) d')
    (hreach : d.Reaches cwd out) (hdirs : ∀ p ∈ pairs, loc ≠ pairPlace cwd out p)
    (hfiles : loc ∉ filesOf cwd out pairs) : d'.get? loc = d.get? loc := by
  rcases h.cases loc with hc | ⟨hway | ⟨p, hp, heq⟩, hnone, -⟩ | ⟨hl, -⟩
  · exact hc
  · rw [hreach.get?_of_onTheWay hway] at hnone
    cases hnone
  · exact absurd heq (hdirs p hp)
  · exact absurd hl hfiles

theorem pairPlace_length (cwd : Location) (out : String) (pair : MappingPair) :
    (pairPlace cwd out pair).length = (placeOf cwd out).length + 1 := by
  simp [pairPlace]

theorem pairPlace_notMem_filesOf : pairPlace cwd out pair ∉ filesOf cwd out pairs := by
  rintro ⟨p, -, name, -, heq⟩
  have hlength := congrArg List.length heq
  simp [pairPlace_length] at hlength

theorem pairPlace_append_ne {name : String} (p : MappingPair) :
    pairPlace cwd out pair ++ [name] ≠ pairPlace cwd out p := by
  intro heq
  have hlength := congrArg List.length heq
  simp [pairPlace_length] at hlength

/-- **Room stays** whatever pairs are written. -/
theorem Disk.Room.of_changes (h : d.Room cwd out pair) (hreach : d.Reaches cwd out)
    (hchanges : d.Changes (directoriesOf cwd out pairs) (filesOf cwd out pairs) d') :
    d'.Room cwd out pair where
  nul := h.nul
  dirShort := h.dirShort
  short := h.short
  dir := by
    rcases hchanges.cases (pairPlace cwd out pair) with hc | ⟨-, -, hdir⟩ | ⟨hl, -⟩
    · rw [hc]
      exact h.dir
    · exact Or.inr hdir
    · exact absurd hl pairPlace_notMem_filesOf
  files := by
    intro name hname hdir
    rcases hchanges.cases (pairPlace cwd out pair ++ [name]) with
      hc | ⟨hway | ⟨p, -, heq⟩, hnone, -⟩ | ⟨-, -, bytes, hfile⟩
    · exact h.files name hname (hc ▸ hdir)
    · rw [hreach.get?_of_onTheWay hway] at hnone
      cases hnone
    · exact pairPlace_append_ne p heq
    · rw [hfile] at hdir
      cases hdir

/-- Room there is afterwards there was before. -/
theorem Disk.Room.of_changes_after (h : d'.Room cwd out pair)
    (hchanges : d.Changes (directoriesOf cwd out pairs) (filesOf cwd out pairs) d') :
    d.Room cwd out pair where
  nul := h.nul
  dirShort := h.dirShort
  short := h.short
  dir := by
    rcases hchanges.cases (pairPlace cwd out pair) with hc | ⟨-, hnone, -⟩ | ⟨hl, -⟩
    · rw [← hc]
      exact h.dir
    · exact Or.inl hnone
    · exact absurd hl pairPlace_notMem_filesOf
  files name hname hdir := h.files name hname (hchanges.keepsDirectories _ hdir)

/-- Room is a matter of the directory. -/
theorem Disk.Room.congr {q : MappingPair} (h : d.Room cwd out pair)
    (hdir : q.dirName = pair.dirName) : d.Room cwd out q := by
  have hplace : pairPlace cwd out q = pairPlace cwd out pair := by rw [pairPlace, hdir, pairPlace]
  refine ⟨?_, ?_, ?_, ?_, ?_⟩
  · rw [hdir]
    exact h.nul
  · rw [hdir]
    exact h.dirShort
  · rw [hdir]
    exact h.short
  · rw [hplace]
    exact h.dir
  · rw [hplace]
    exact h.files

/-- **What a file that can be read says of its path**: everything on the way is a directory, and
nothing is too long. -/
theorem of_readFile_join_join {last name : String} {bytes : ByteArray} (h : d.IsTree)
    (hlast : Path.IsSegment last) (hname : Path.IsSegment name)
    (hread : d.readFile cwd (Path.join (Path.join out last) name) = .ok bytes) :
    d.Reaches cwd out ∧ '\x00' ∉ (Path.join out last).toList ∧ ¬Disk.Overlong out last ∧
      ¬Disk.Overlong (Path.join out last) name ∧
      d.get? (placeOf cwd out ++ [last]) = some .directory ∧
      d.get? (placeOf cwd out ++ [last] ++ [name]) = some (.file bytes) := by
  obtain ⟨hcheck, hopen, hget⟩ := h.readFile_eq_ok_iff.mp hread
  obtain ⟨hnul, -, hsize⟩ := Disk.of_checkPath hcheck
  rw [Disk.placeOf_join _ _ hname, Disk.placeOf_join _ _ hlast] at hget
  rw [Disk.steps_join _ hname, Disk.origin_join_segment _ _ hname, Disk.open_append] at hopen
  obtain ⟨hopen, hdir, hnameSize, -⟩ := hopen
  rw [Disk.bareSteps_join_segment _ hlast, Disk.origin_join_segment _ _ hlast,
    Disk.open_append] at hopen
  obtain ⟨hopen, hout, hlastSize, -⟩ := hopen
  rw [Path.join_join out hlast hname] at hnul hsize
  have hshorter : (Path.join out last).utf8ByteSize ≤
      (Path.join out last ++ "/" ++ name).utf8ByteSize := by
    rw [String.utf8ByteSize_append, String.utf8ByteSize_append]
    omega
  refine ⟨⟨hopen, hout⟩, fun hc => hnul ?_, ?_, ?_, (h.get?_parent hget).2, hget⟩
  · simp [hc]
  · rintro (hlong | hlong)
    · omega
    · omega
  · rw [Disk.Overlong, Path.join_join out hlast hname]
    omega

/-- **Where the files of a pair are there is room for them.** -/
theorem World.Holds.room {w : World} {a : Artifacts} (htree : w.disk.IsTree)
    (h : w.Holds (Path.join out pair.dirName) a) :
    w.disk.Reaches w.cwd out ∧ w.disk.Room w.cwd out pair := by
  have hfile : ∀ name ∈ artifactNames, ∃ bytes,
      w.disk.readFile w.cwd (Path.join (Path.join out pair.dirName) name) = .ok bytes := by
    intro name hname
    rw [← map_fst_files a] at hname
    obtain ⟨file, hfile, rfl⟩ := List.mem_map.mp hname
    exact ⟨_, h file hfile⟩
  have hjava : javaFile ∈ artifactNames := by simp [artifactNames]
  obtain ⟨_, hread⟩ := hfile javaFile hjava
  obtain ⟨hreach, hnul, hdirShort, -, hdir, -⟩ := of_readFile_join_join htree
    pair.isSegment_dirName (isSegment_of_mem_artifactNames hjava) hread
  refine ⟨hreach, hnul, hdirShort, fun name hname => ?_, Or.inr hdir, fun name hname hc => ?_⟩
  · obtain ⟨_, hread⟩ := hfile name hname
    obtain ⟨-, -, -, hshort, -⟩ := of_readFile_join_join htree pair.isSegment_dirName
      (isSegment_of_mem_artifactNames hname) hread
    exact hshort
  · obtain ⟨_, hread⟩ := hfile name hname
    obtain ⟨-, -, -, -, -, hget⟩ := of_readFile_join_join htree pair.isSegment_dirName
      (isSegment_of_mem_artifactNames hname) hread
    rw [show w.disk.get? (placeOf w.cwd out ++ [pair.dirName] ++ [name]) = _ from hc] at hget
    cases hget

end Places

/-! ### Worlds in which a run can go on -/

/-- **A world in which a run can go on** that began in another one: the output directory is there,
there is room for the pairs, and the same numbers are taken for their files. -/
structure Ready (w₀ : World) (out : String) (pairs : List MappingPair) (w : World) : Prop where
  /-- The disk is a tree. -/
  tree : w.disk.IsTree
  /-- The program works in the same directory. -/
  cwd : w.cwd = w₀.cwd
  /-- It is the same process. -/
  process : w.process = w₀.process
  /-- The output directory is there, if there are pairs. -/
  reach : pairs ≠ [] → w.disk.Reaches w.cwd out
  /-- There is room for the pairs. -/
  room : ∀ p ∈ pairs, w.disk.Room w.cwd out p
  /-- The same numbers are taken. -/
  taken : ∀ p ∈ pairs, ∀ name ∈ artifactNames, ∀ k,
    w.Taken (Path.join out p.dirName) name k ↔ w₀.Taken (Path.join out p.dirName) name k

section Ready

variable {w₀ w w' : World} {out : String} {pairs ps : List MappingPair} {pair : MappingPair}

/-- **A run can go on** after any pairs, as they leave the temporary files of others alone. -/
theorem Ready.of_changes (h : Ready w₀ out pairs w) (hcwd : w'.cwd = w.cwd)
    (hprocess : w'.process = w.process)
    (hdisk : w.disk.Changes (directoriesOf w.cwd out ps) (filesOf w.cwd out ps) w'.disk) :
    Ready w₀ out pairs w' where
  tree := hdisk.tree
  cwd := hcwd.trans h.cwd
  process := hprocess.trans h.process
  reach hne := by
    rw [hcwd]
    exact (h.reach hne).mono hdisk.keepsDirectories
  room p hp := by
    rw [hcwd]
    exact (h.room p hp).of_changes (h.reach (List.ne_nil_of_mem hp)) hdisk
  taken p hp name hname k := by
    have htemp : w'.tempName name k = w.tempName name k := by
      rw [World.tempName, World.tempName, hprocess]
    have hget : w'.disk.get? (pairPlace w.cwd out p ++ [w.tempName name k]) =
        w.disk.get? (pairPlace w.cwd out p ++ [w.tempName name k]) := by
      refine hdisk.get?_eq (h.reach (List.ne_nil_of_mem hp)) (fun q _ => pairPlace_append_ne q) ?_
      rintro ⟨q, -, name', hname', heq⟩
      exact tempName_notMem_artifactNames hname w k ((pairPlace_append_inj heq).2 ▸ hname')
    rw [← h.taken p hp name hname k, World.Taken, World.Taken, hcwd, htemp, placeOf_pairPath, hget]

/-- A world that differs in nothing that matters. -/
theorem Ready.of_eq (h : Ready w₀ out pairs w) (hdisk : w'.disk = w.disk) (hcwd : w'.cwd = w.cwd)
    (hprocess : w'.process = w.process) : Ready w₀ out pairs w' := by
  have hnothing : w.disk.Changes (directoriesOf w.cwd out []) (filesOf w.cwd out []) w'.disk := by
    rw [hdisk]
    exact .refl h.tree
  exact h.of_changes hcwd hprocess hnothing

/-- A run that begins where another one can go on. -/
theorem Ready.rebase (h : Ready w₀ out pairs w) (hdisk : w'.disk = w.disk) (hcwd : w'.cwd = w.cwd) :
    Ready w' out pairs w' where
  tree := hdisk ▸ h.tree
  cwd := rfl
  process := rfl
  reach := by
    rw [hdisk, hcwd]
    exact h.reach
  room := by
    rw [hdisk, hcwd]
    exact h.room
  taken _ _ _ _ _ := Iff.rfl

/-- The directory of a pair, once it has been made. -/
theorem Ready.isDirectory (h : Ready w₀ out pairs w) (hp : pair ∈ pairs)
    (hdir : w.disk.get? (pairPlace w.cwd out pair) = some .directory) :
    w.disk.isDirectory w.cwd (Path.join out pair.dirName) = true := by
  have hroom := h.room pair hp
  have hsegment := pair.isSegment_dirName
  obtain ⟨hname, hpath⟩ := not_or.mp hroom.dirShort
  refine h.tree.isDirectory_iff_reaches.mpr ⟨?_, ?_, ?_⟩
  · rw [Disk.checkPath_join hsegment hroom.nul, if_neg hpath]
  · rw [Disk.origin_join_segment _ _ hsegment, Disk.bareSteps_join_segment _ hsegment,
      Disk.open_append]
    have hreach := h.reach (List.ne_nil_of_mem hp)
    exact ⟨hreach.opens, hreach.get?, Nat.not_lt.mp hname, trivial⟩
  · rw [placeOf_pairPath]
    exact hdir

/-- **The directory of a pair can be made.** -/
theorem Ready.createDirs (h : Ready w₀ out pairs w) (hp : pair ∈ pairs) :
    ∃ d, (TwinTypes.createDirs (Path.join out pair.dirName)).run.run w =
      (.ok (), { w with disk := d }) := by
  have hroom := h.room pair hp
  have hsegment := pair.isSegment_dirName
  rcases hroom.dir with hnone | hdir
  · have hreach := h.reach (List.ne_nil_of_mem hp)
    exact ⟨_, createDirs_of_makeDir (Disk.ne_empty_of_join out hsegment)
      (h.tree.makeDir_join_vacant hreach hsegment hroom.nul hroom.dirShort hnone)⟩
  · exact ⟨w.disk, createDirs_of_isDirectory h.tree (h.isDirectory hp hdir)⟩

end Ready

/-! ### Numbers that are spent -/

/-- **How writing files ends** where only their numbers can stand in the way: each has drawn its
number, or one of them has failed as its number is too long. -/
inductive Spends (w₀ : World) (files : List (String × String)) (n : Nat) {α : Type} :
    Except GenError α × World → Prop
  /-- All files have been written. -/
  | finished (a : α) (w' : World) (draws : w₀.Draws files n w'.counter) :
      Spends w₀ files n (.ok a, w')
  /-- The number of a file is too long. -/
  | overlong (dir name : String) (k : Nat) (w' : World) (blocked : w₀.Blocked files n dir name k)
      (counter : w'.counter = k + 1) :
      Spends w₀ files n (.error (.io (Path.join dir name) .nameTooLong), w')

section Spends

variable {w₀ w : World} {files files' : List (String × String)} {n : Nat} {α β : Type}

theorem Spends.map {result : Except GenError α × World} (h : Spends w₀ files n result)
    (f : α → β) : Spends w₀ files n (result.1.map f, result.2) := by
  cases h with
  | finished a w' hdraws => exact .finished (f a) w' hdraws
  | overlong dir name k w' hblocked hcounter => exact .overlong dir name k w' hblocked hcounter

/-- **One program after another** spends numbers on the files of both. -/
theorem Spends.bind {p : Attempt GenError α} {f : α → Attempt GenError β}
    (h : Spends w₀ files n (p.run.run w))
    (hf : ∀ a w', p.run.run w = (.ok a, w') → Spends w₀ files' w'.counter ((f a).run.run w')) :
    Spends w₀ (files ++ files') n ((p >>= f).run.run w) := by
  rw [Attempt.run_bind]
  generalize p.run.run w = result at h hf
  cases h with
  | finished a w' hdraws =>
    have hrest := hf a w' rfl
    simp only
    generalize (f a).run.run w' = result at hrest
    cases hrest with
    | finished b w'' hdraws' => exact .finished b w'' (hdraws.append hdraws')
    | overlong dir name k w'' hblocked hcounter =>
      exact .overlong dir name k w'' (.append_right hdraws hblocked) hcounter
  | overlong dir name k w' hblocked hcounter =>
    exact .overlong dir name k w' (hblocked.append_left files') hcounter

/-- What succeeds without writing a file spends no number. -/
theorem Spends.nothing {p : Attempt GenError α} {a : α} {w' : World}
    (hrun : p.run.run w = (.ok a, w')) (hcounter : w'.counter = w.counter) :
    Spends w₀ [] w.counter (p.run.run w) := by
  rw [hrun, ← hcounter]
  exact .finished a w' (.nil _)

end Spends

/-! ### Pairs -/

/-- The files of a pair: the directory and the name of each. -/
def filesFor (out : String) (pair : MappingPair) : List (String × String) :=
  artifactNames.map fun name => (Path.join out pair.dirName, name)

section Run

variable {w₀ w : World} {registry : Registry} {out : String} {pairs ps : List MappingPair}
  {pair : MappingPair}

/-- **Writing one file of a pair** spends a number on it. -/
theorem Ready.writeFile {name : String} (h : Ready w₀ out pairs w) (hp : pair ∈ pairs)
    (hdir : w.disk.get? (pairPlace w.cwd out pair) = some .directory) (hname : name ∈ artifactNames)
    (text : String) :
    Spends w₀ [(Path.join out pair.dirName, name)] w.counter
      ((atomicWriteText (Path.join (Path.join out pair.dirName) name) text).run.run w) := by
  have hsegment := isSegment_of_mem_artifactNames hname
  have hroom := h.room pair hp
  have hfree : w.disk.get? (placeOf w.cwd (Path.join out pair.dirName) ++ [name]) ≠
      some .directory := by
    rw [placeOf_pairPath]
    exact hroom.files name hname
  obtain ⟨k, hsettles, hcases⟩ := atomicWrite_settles h.tree (h.isDirectory hp hdir)
    (parentDir_join_join out pair.isSegment_dirName hsegment)
    (Path.fileName_join_join out pair.isSegment_dirName hsegment) hsegment
    (nul_notMem_of_mem_artifactNames hname) (hroom.short name hname) hfree text.toUTF8
  have hsettles₀ : w₀.Settles (Path.join out pair.dirName) name w.counter k :=
    hsettles.congr h.process.symm fun j => (h.taken pair hp name hname j).symm
  rw [atomicWriteText]
  rcases hcases with ⟨hlong, hrun⟩ | ⟨hshort, d, hrun⟩
  · rw [hrun]
    exact .overlong _ _ k _ (.here hsettles₀ ((World.overlong_congr h.process).mp hlong)) rfl
  · rw [hrun]
    exact .finished () _
      (.cons hsettles₀ (fun hlong => hshort ((World.overlong_congr h.process).mpr hlong)) (.nil _))

/-- Writing one file of a pair is within the bounds of the pair. -/
theorem edits_writeFile {name : String} (h : w.disk.IsTree) (hname : name ∈ artifactNames)
    (text : String) :
    w.Edits (directoriesOf w.cwd out [pair]) (filesOf w.cwd out [pair])
      ((atomicWriteText (Path.join (Path.join out pair.dirName) name) text).run.run w).2 := by
  have hsegment := isSegment_of_mem_artifactNames hname
  have hwritten := atomicWrite_run h (Path.join (Path.join out pair.dirName) name) text.toUTF8
  rw [parentDir_join_join out pair.isSegment_dirName hsegment] at hwritten
  refine hwritten.edits.mono (onTheWay_pairPath w.cwd out pair) ?_
  rintro loc rfl
  refine ⟨pair, by simp, name, hname, ?_⟩
  rw [Disk.placeOf_join _ _ hsegment, placeOf_pairPath]

/-- **Writing the files of a pair** spends a number on each. -/
theorem Ready.writeFiles (h : Ready w₀ out pairs w) (hp : pair ∈ pairs)
    (hdir : w.disk.get? (pairPlace w.cwd out pair) = some .directory)
    {files : List (String × String)} (hfiles : ∀ f ∈ files, f.1 ∈ artifactNames) :
    Spends w₀ (files.map fun f => (Path.join out pair.dirName, f.1)) w.counter
      ((TwinTypes.writeFiles (Path.join out pair.dirName) files).run.run w) := by
  induction files generalizing w with
  | nil => exact .nothing rfl rfl
  | cons file rest ih =>
    obtain ⟨name, text⟩ := file
    have hname : name ∈ artifactNames := hfiles _ List.mem_cons_self
    rw [TwinTypes.writeFiles]
    refine (h.writeFile hp hdir hname text).bind fun _ w' hrun => ?_
    have hedits := @edits_writeFile w out pair name h.tree hname text
    have hprocess := Program.run_process
      (atomicWriteText (Path.join (Path.join out pair.dirName) name) text).run w
    rw [hrun] at hedits hprocess
    refine ih (h.of_changes hedits.cwd hprocess hedits.disk) ?_ fun f hf => hfiles f (by simp [hf])
    rw [hedits.cwd]
    exact hedits.disk.keepsDirectories _ hdir

/-- **Writing all that belongs to a pair** spends a number on each file. -/
theorem Ready.writePair (h : Ready w₀ out pairs w) (hp : pair ∈ pairs) {a : Artifacts}
    (ha : a.dirName = pair.dirName) :
    Spends w₀ (filesFor out pair) w.counter ((TwinTypes.writePair out a).run.run w) := by
  obtain ⟨d, hdirs⟩ := h.createDirs hp
  have hmade := createDirs_run h.tree (Path.join out pair.dirName)
  rw [hdirs] at hmade
  have hchanges : w.disk.Changes (directoriesOf w.cwd out [pair]) (filesOf w.cwd out [pair]) d :=
    hmade.edits.disk.mono (onTheWay_pairPath w.cwd out pair) (Set.empty_subset _)
  have hready : Ready w₀ out pairs { w with disk := d } := h.of_changes rfl rfl hchanges
  have hdir : d.get? (pairPlace w.cwd out pair) = some .directory := by
    rw [← placeOf_pairPath]
    exact (hchanges.tree.isDirectory_iff.mp
      (hmade.isDirectory rfl (Disk.ne_empty_of_join out pair.isSegment_dirName))).2.2
  have hfiles : filesFor out pair =
      (a.files.map fun f => (Path.join out pair.dirName, f.1)) ++ [] := rfl
  unfold TwinTypes.writePair
  rw [ha]
  simp only
  rw [Attempt.run_bind_ok (Attempt.run_orFail_ok hdirs), hfiles]
  exact (hready.writeFiles hp hdir fun f hf => mem_artifactNames hf).bind
    fun _ _ _ => .nothing rfl rfl

theorem reportUnknown_run (registry : Registry) (pair : MappingPair) (w : World) :
    ∃ err, (reportUnknown registry pair).run w = ((), { w with err := err }) := by
  unfold reportUnknown
  split
  · exact ⟨w.err, rfl⟩
  · exact ⟨_, rfl⟩

theorem reportUnmapped_run (registry : Registry) (pair : MappingPair) (w : World) :
    ∃ err, (reportUnmapped registry pair).run w = ((), { w with err := err }) := by
  unfold reportUnmapped
  dsimp only
  split
  · exact ⟨_, rfl⟩
  · exact ⟨w.err, rfl⟩

/-- **Generating what belongs to a pair** spends a number on each of its files. -/
theorem Ready.generatePair (h : Ready w₀ out pairs w) (hp : pair ∈ pairs) :
    Spends w₀ (filesFor out pair) w.counter
      ((TwinTypes.generatePair registry out announce pair).run.run w) := by
  obtain ⟨err, hunknown⟩ := reportUnknown_run registry pair w
  obtain ⟨err', hunmapped⟩ := reportUnmapped_run registry pair { w with err := err }
  have hready : Ready w₀ out pairs { w with err := err' } := h.of_eq rfl rfl rfl
  unfold TwinTypes.generatePair
  rw [Attempt.run_always_bind, hunknown, Attempt.run_always_bind, hunmapped,
    ← List.append_nil (filesFor out pair)]
  exact (hready.writePair hp rfl).bind fun _ _ _ => .nothing rfl rfl

/-- **After a pair the run can go on.** -/
theorem Ready.of_generatePair {entry : GeneratedPair} (h : Ready w₀ out pairs w)
    (hrun : (TwinTypes.generatePair registry out announce pair).run.run w = (.ok entry, w')) :
    Ready w₀ out pairs w' := by
  have hprocess := Program.run_process
    (TwinTypes.generatePair registry out announce pair).run w
  obtain ⟨w₁, hedits, ⟨-, hpair⟩ | ⟨e, hpair⟩⟩ := generatePair_run h.tree registry out announce pair
  · rw [hrun] at hprocess hpair
    cases hpair
    exact h.of_changes hedits.cwd hprocess hedits.disk
  · rw [hrun] at hpair
    cases hpair

/-- **The run through some pairs** spends a number on each of their files. -/
theorem Ready.generateAll (h : Ready w₀ out pairs w) (hps : ps ⊆ pairs) :
    Spends w₀ (ps.flatMap (filesFor out)) w.counter
      ((TwinTypes.generateAll registry out announce ps).run.run w) := by
  induction ps generalizing w with
  | nil => exact .nothing rfl rfl
  | cons pair rest ih =>
    obtain ⟨hp, hrest⟩ := List.cons_subset.mp hps
    rw [TwinTypes.generateAll, List.flatMap_cons]
    refine (h.generatePair hp).bind fun entry w' hrun => ?_
    rw [Attempt.run_bind_pure]
    exact (ih (h.of_generatePair hrun) hrest).map (entry :: ·)

end Run

/-! ### Whole runs -/

/-- **A world in which a run can begin**: the output directory can be made, and then the run can go
on. -/
def World.CanBegin (w₀ : World) (out : String) (pairs : List MappingPair) (w : World) : Prop :=
  ∃ d, (createDirs out).run.run w = (.ok (), { w with disk := d }) ∧
    Ready w₀ out pairs { w with disk := d }

section Whole

variable {w₀ w w' v : World} {registry : Registry} {out : String} {pairs ps : List MappingPair}
  {result : Except GenError Summary}

/-- **Where a run can begin** only the numbers of temporary files can stand in the way. -/
theorem World.CanBegin.spends (h : w₀.CanBegin out pairs w) (hps : ps ⊆ pairs) :
    Spends w₀ (ps.flatMap (filesFor out)) w.counter
      ((generate registry ps out announce).run.run w) := by
  obtain ⟨d, hdirs, hready⟩ := h
  rw [generate_run_ok hdirs]
  exact (hready.generateAll hps).map _

/-- **A run succeeds where it can begin** if and only if its files can draw their numbers. -/
theorem World.CanBegin.ok_iff_draws (h : w₀.CanBegin out pairs w) (hps : ps ⊆ pairs) :
    (∃ summary w', (generate registry ps out announce).run.run w = (.ok summary, w')) ↔
      ∃ m, w₀.Draws (ps.flatMap (filesFor out)) w.counter m := by
  have hspends : Spends w₀ (ps.flatMap (filesFor out)) w.counter
      ((generate registry ps out announce).run.run w) := h.spends hps
  generalize (generate registry ps out announce).run.run w = result at hspends
  cases hspends with
  | finished summary w' hdraws => exact iff_of_true ⟨summary, w', rfl⟩ ⟨w'.counter, hdraws⟩
  | overlong dir name k w' hblocked =>
    refine iff_of_false ?_ ?_
    · rintro ⟨summary, w', hrun⟩
      cases hrun
    · rintro ⟨m, hdraws⟩
      exact hdraws.not_blocked hblocked

/-- Whether a run can begin is a matter of the disk and the process. -/
theorem World.CanBegin.congr (h : w₀.CanBegin out pairs w) (hdisk : v.disk = w.disk)
    (hcwd : v.cwd = w.cwd) (hprocess : v.process = w.process) : w₀.CanBegin out pairs v := by
  obtain ⟨d, hdirs, hready⟩ := h
  exact ⟨d, createDirs_congr hdirs hdisk hcwd, hready.of_eq rfl hcwd hprocess⟩

/-- In another process a run can begin as well, as if it were the first one. -/
theorem World.CanBegin.rebase (h : w₀.CanBegin out pairs w) (hdisk : v.disk = w.disk)
    (hcwd : v.cwd = w.cwd) : ∃ v₀ : World, v₀.process = v.process ∧ v₀.CanBegin out pairs v := by
  obtain ⟨d, hdirs, hready⟩ := h
  exact ⟨{ v with disk := d }, rfl, d, createDirs_congr hdirs hdisk hcwd, hready.rebase rfl hcwd⟩

/-- Making the directory of an empty path does nothing. -/
theorem createDirs_empty (w : World) : (createDirs "").run.run w = (.ok (), w) := by
  obtain ⟨rest, hrest⟩ := exists_createDirs_eq ""
  rw [hrest, createDirsAlong]
  rfl

/-- **Making a directory once more** does nothing. -/
theorem createDirs_again (h : w.disk.IsTree) (hrun : (createDirs out).run.run w = (.ok (), w'))
    (hkeep : w'.disk.KeepsDirectories v.disk) (hv : v.disk.IsTree) (hcwd : v.cwd = w'.cwd) :
    (createDirs out).run.run v = (.ok (), v) := by
  by_cases hne : out = ""
  · subst hne
    exact createDirs_empty v
  · have hmade := createDirs_run h out
    rw [hrun] at hmade
    obtain ⟨hcheck, hreach⟩ :=
      hmade.edits.tree.isDirectory_iff_reaches.mp (hmade.isDirectory rfl hne)
    refine createDirs_of_isDirectory hv (hv.isDirectory_iff_reaches.mpr ⟨hcheck, ?_⟩)
    rw [hcwd]
    exact hreach.mono hkeep

/-- **After a run another one can begin.** -/
theorem World.CanBegin.after (h : w₀.CanBegin out pairs w) (ht : w.disk.IsTree)
    (hrun : (generate registry ps out announce).run.run w = (result, w')) :
    w₀.CanBegin out pairs w' := by
  obtain ⟨d, hdirs, hready⟩ := h
  rw [generate_run_ok hdirs] at hrun
  obtain ⟨n, tried, -, hleaves⟩ := generateAll_run observes_announce hready.tree registry out ps
  have hprocess := Program.run_process (generateAll registry out announce ps).run
    { w with disk := d }
  rw [congrArg Prod.snd hrun] at hleaves hprocess
  have hready' : Ready w₀ out pairs w' := hready.of_changes hleaves.cwd hprocess hleaves.disk
  refine ⟨w'.disk, ?_, hready'⟩
  exact createDirs_again ht hdirs hleaves.disk.keepsDirectories hready'.tree hleaves.cwd

/-- The working directory is there before files are put into it. -/
theorem Disk.Reaches.of_changes_empty {d d' : Disk} {cwd : Location} (h : d'.Reaches cwd "")
    (hchanges : d.Changes (directoriesOf cwd "" pairs) (filesOf cwd "" pairs) d') :
    d.Reaches cwd "" := by
  have hplace : placeOf cwd "" = cwd := by
    rw [placeOf, Path.bareSteps_empty]
    rfl
  refine ⟨by rw [Path.bareSteps_empty]; trivial, ?_⟩
  have hdir := h.get?
  rw [hplace] at hdir ⊢
  rcases hchanges.cases cwd with hc | ⟨⟨names, hne, hinit, -⟩ | ⟨p, -, heq⟩, -, -⟩ |
    ⟨-, -, bytes, hfile⟩
  · rw [← hc, hdir]
  · rw [Path.bareSteps_empty, List.prefix_nil] at hinit
    exact absurd hinit hne
  · have hlength := congrArg List.length heq
    rw [pairPlace_length, hplace] at hlength
    omega
  · rw [hfile] at hdir
    cases hdir

/-- **Where all pairs have succeeded** there was room for them, and the output directory was there
if it had been made, or is the working directory. -/
theorem Leaves.reaches_and_room
    {note : List GeneratedPair × String → GeneratedPair → List GeneratedPair × String}
    (h : Leaves registry out note pairs pairs.length w w')
    (hout : out ≠ "" → w.disk.Reaches w.cwd out) {pair : MappingPair} (hp : pair ∈ pairs) :
    w.disk.Reaches w.cwd out ∧ w.disk.Room w.cwd out pair := by
  obtain ⟨p, hlast, hdir⟩ := MappingPair.exists_lastIn ⟨pair, hp, rfl⟩
  obtain ⟨hreach, hroom⟩ := (h.holds_of_lastIn hlast).room h.disk.tree
  rw [h.cwd] at hreach hroom
  refine ⟨?_, (hroom.congr hdir.symm).of_changes_after h.disk⟩
  by_cases hne : out = ""
  · subst hne
    exact hreach.of_changes_empty h.disk
  · exact hout hne

/-- **A run that succeeds could begin**, with room for all of its pairs. -/
theorem exists_canBegin {summary : Summary} (h : w.disk.IsTree)
    (hrun : (generate registry pairs out announce).run.run w = (.ok summary, w')) :
    ∃ w₀ : World, w₀.process = w.process ∧ w₀.CanBegin out pairs w := by
  have hmade := createDirs_run h out
  rcases hdirs : (createDirs out).run.run w with ⟨cause | u, w₁⟩
  · rw [generate_run_error hdirs] at hrun
    cases hrun
  · obtain ⟨d, rfl⟩ := exists_createDirs_ok hdirs
    rw [hdirs] at hmade
    rw [generate_run_ok hdirs] at hrun
    obtain ⟨n, tried, hstops, hleaves⟩ :=
      generateAll_run observes_announce hmade.edits.tree registry out pairs
    generalize (generateAll registry out announce pairs).run.run { w with disk := d } = result
      at hrun hstops hleaves
    cases hstops with
    | failedAt => cases hrun
    | finished w'' =>
      have hroom := fun p (hp : p ∈ pairs) => hleaves.reaches_and_room
        (fun hne => (hmade.edits.tree.isDirectory_iff_reaches.mp (hmade.isDirectory rfl hne)).2) hp
      refine ⟨{ w with disk := d }, rfl, d, hdirs, hmade.edits.tree, rfl, rfl, fun hne => ?_,
        fun p hp => (hroom p hp).2, fun _ _ _ _ _ => Iff.rfl⟩
      obtain ⟨p, hp⟩ := List.exists_mem_of_ne_nil pairs hne
      exact (hroom p hp).1

end Whole

end TwinTypes
