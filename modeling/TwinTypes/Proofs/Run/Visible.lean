import TwinTypes.Proofs.Disk.Parents
import TwinTypes.Proofs.Run.Generating
import TwinTypes.Proofs.Run.States
import TwinTypes.Run.Index

/-!
# No file is seen half written

`whole_of_mem_states` says what stands at the place of a file at any time of the run that writes it:
what stood there before, or a whole text that is meant for it.

Everything that is unfinished has a name of its own, which is longer than the name of the file, and
what is moved to the file is finished. That is `respects_atomicWrite`; the rest of a run makes
directories. A directory may come about at the place of a file, if the output path leads through it
and nothing stood there – the path `a/b/..` leads through `a/b` – so that the places on the way are
named in the statement.
-/

namespace TwinTypes

open Disk (bareSteps onTheWay placeOf)

variable {v : Watch}

/-! ### Directories -/


theorem quiet_isDirectory (path : String) : (isDirectory path).Quiet :=
  Program.quiet_request (fun _ => rfl) fun _ => ⟨rfl, rfl⟩

theorem quiet_report (e : Log.Event) : (report e).Quiet :=
  Program.quiet_request (fun _ => rfl) fun _ => ⟨rfl, rfl⟩

theorem quiet_announce (entry : GeneratedPair) : (announce entry).Quiet :=
  Program.quiet_request (fun _ => rfl) fun _ => ⟨rfl, rfl⟩

theorem respects_makeDir {path : String}
    (hway : bareSteps path ≠ [] → v.loc = placeOf v.cwd path → v.way) :
    (makeDir path).Respects v := by
  intro w hcwd htree s hs
  rcases Program.of_mem_states_request rfl hs with rfl | rfl
  · exact .of_disk_eq htree rfl rfl
  · change v.Allows w ((makeDir path).run w).2
    rcases makeDir_cases htree path with ⟨-, hsteps, hedits, -⟩ | ⟨e, he⟩
    · refine ⟨hedits.cwd, hedits.tree, hedits.disk.admits (fun hloc => ?_) (Set.notMem_empty _)⟩
      rw [hcwd] at hloc
      exact hway hsteps hloc
    · rw [he]
      exact .of_disk_eq htree rfl rfl

theorem respects_unlessDirectory (path : String) (e : DiskError) :
    (unlessDirectory path e).run.Respects v := by
  unfold unlessDirectory
  refine Attempt.respects_bind
    (Attempt.respects_always ((quiet_isDirectory path).respects v)) fun isDir => ?_
  split
  · exact Attempt.respects_pure ()
  · exact Attempt.respects_throw e

/-- Making directories, each in the next one. -/
theorem respects_createDirsAlong {paths : List String}
    (hway : ∀ p ∈ paths, p ≠ "" → bareSteps p ≠ [] → v.loc = placeOf v.cwd p → v.way) :
    (createDirsAlong paths).run.Respects v := by
  induction paths with
  | nil => exact Attempt.respects_pure ()
  | cons path rest ih =>
    rw [createDirsAlong]
    split
    · exact Attempt.respects_pure ()
    · rename_i hempty
      have hne : path ≠ "" := fun hc => hempty (by simp [hc])
      have hmake : (Attempt.always (makeDir path) : Attempt DiskError _).run.Respects v :=
        Attempt.respects_always (respects_makeDir (hway path (by simp) hne))
      refine Attempt.respects_bind hmake fun result => ?_
      split
      · exact Attempt.respects_pure ()
      · refine Attempt.respects_bind (ih fun p hp => hway p (by simp [hp])) fun _ => ?_
        refine Attempt.respects_bind hmake fun result => ?_
        split
        · exact Attempt.respects_pure ()
        · exact respects_unlessDirectory path _
      · exact respects_unlessDirectory path _

/-- **Making a directory** shows directories on the way to it alone. -/
theorem respects_createDirs {path : String} (hway : v.loc ∈ onTheWay v.cwd path → v.way) :
    (createDirs path).run.Respects v :=
  respects_createDirsAlong fun _ hp hne hsteps hloc =>
    hway (Disk.onTheWay_of_mem_ancestors hp hne hsteps hloc)

/-! ### A file written whole -/

section Temporary

variable {name : String}

/-- A temporary file has a longer name than the file that is written. -/
theorem le_length_tempName (w : World) (name : String) (k : Nat) :
    name.length + 5 ≤ (w.tempName name k).length := by
  have hmark : ".tmp.".length = 5 := by decide
  simp only [World.tempName, String.length_append, hmark]
  omega

/-- No number is spelt with a slash. -/
theorem slash_notMem_toDigits (n : Nat) : '/' ∉ Nat.toDigits 10 n := by
  intro h
  have hdigit : '/'.isDigit = true := Nat.isDigit_of_mem_toDigits (by omega) (by omega) h
  exact absurd hdigit (by decide)

theorem isSegment_tempName (w : World) (h : Path.IsSegment name) (k : Nat) :
    Path.IsSegment (w.tempName name k) := by
  have hlength := le_length_tempName w name k
  have hlong : ∀ short : String, short.length ≤ 2 → w.tempName name k ≠ short := by
    rintro short hshort heq
    rw [heq] at hlength
    omega
  refine ⟨hlong "" (by decide), hlong "." (by decide), hlong ".." (by decide), ?_⟩
  simp [World.tempName, h.slash, slash_notMem_toDigits]

end Temporary

section Files

variable {w s : World} {path temp : String} {bytes : ByteArray} {d : Disk}

/-- The states on the way from an empty file to one that has been moved. -/
theorem of_mem_states_fillAndMove (happend : w.disk.appendFile w.cwd temp bytes = .ok d)
    (hs : s ∈ (fillAndMove temp path bytes).run.states w) :
    s = w ∨ s ∈ w.stages (.append temp bytes) ∨ s = { w with disk := d } ∨
      s = ((fillAndMove temp path bytes).run.run w).2 := by
  have hanswer : w.answer (.append temp bytes) = (.ok (), { w with disk := d }) := by
    change w.change (w.disk.appendFile w.cwd temp bytes) = _
    rw [happend]
    rfl
  rw [fillAndMove_run happend]
  unfold fillAndMove at hs
  rcases Attempt.mem_states_bind.mp hs with hs | ⟨_, -, hs⟩
  · rcases Program.mem_states_request.mp hs with hs | hs | hs
    · exact Or.inl hs
    · exact Or.inr (Or.inl hs)
    · exact Or.inr (Or.inr (Or.inl (hs.trans (congrArg Prod.snd hanswer))))
  · have hfilled : ((Attempt.ofProgram (Program.request (.append temp bytes))).run.run w).2 =
        { w with disk := d } := congrArg Prod.snd hanswer
    rw [hfilled] at hs
    rcases Attempt.mem_states_bind.mp hs with hs | ⟨_, -, hs⟩
    -- nothing is seen of the file being synced
    · rcases Program.of_mem_states_request rfl hs with hs | hs
      · exact Or.inr (Or.inr (Or.inl hs))
      · exact Or.inr (Or.inr (Or.inl hs))
    · rcases Program.of_mem_states_request rfl hs with hs | hs
      · exact Or.inr (Or.inr (Or.inl hs))
      · exact Or.inr (Or.inr (Or.inr hs))

/-- The states while a file is being taken away. -/
theorem of_mem_states_discard (hremove : w.disk.removeFile w.cwd temp = .ok d)
    (hs : s ∈ (discard temp).states w) : s = w ∨ s = { w with disk := d } := by
  have hanswer : w.answer (.remove temp) = (.ok (), { w with disk := d }) := by
    change w.change (w.disk.removeFile w.cwd temp) = _
    rw [hremove]
    rfl
  unfold discard at hs
  rcases Program.mem_states_bind.mp hs with hs | hs
  · rcases Program.of_mem_states_request rfl hs with hs | hs
    · exact Or.inl hs
    · exact Or.inr (hs.trans (congrArg Prod.snd hanswer))
  · rw [Program.run_request, hanswer] at hs
    exact Or.inr (List.mem_singleton.mp hs)

/-- A file of another name may be made. -/
theorem Watch.Allows.of_createFile (h : w.disk.IsTree)
    (hc : w.disk.createFile w.cwd temp = .ok s.disk) (hcwd : s.cwd = w.cwd)
    (hne : v.loc ≠ placeOf w.cwd temp) : v.Allows w s := by
  obtain ⟨-, -, hnone, hplace, hdisk⟩ := h.of_createFile hc
  have hchanges := Disk.changes_put h hplace (by simp [hnone]) .empty
  rw [← hdisk] at hchanges
  exact ⟨hcwd, hchanges.tree, hchanges.admits (fun hl => absurd hl (Set.notMem_empty _)) hne⟩

/-- A file of another name may be seen, whatever it holds. -/
theorem Watch.Allows.of_filled (hfilled : Disk.Filled w.disk s.disk w.cwd temp bytes)
    (hcwd : s.cwd = w.cwd) (hne : v.loc ≠ placeOf w.cwd temp) : v.Allows w s :=
  ⟨hcwd, hfilled.tree, Or.inl (by rw [hfilled.get?, if_neg hne])⟩

/-- The file that was moved may be seen, as it is whole. -/
theorem Watch.Allows.of_renameFile {d₂ : Disk} (hfilled : Disk.Filled w.disk d₂ w.cwd temp bytes)
    (hrename : d₂.renameFile w.cwd temp path = .ok s.disk) (hcwd : s.cwd = w.cwd)
    (hwhole : v.loc = placeOf w.cwd path → bytes ∈ v.whole) : v.Allows w s := by
  obtain ⟨hchanges, hread⟩ := hfilled.of_renameFile hrename
  refine ⟨hcwd, hchanges.tree, ?_⟩
  by_cases hloc : v.loc = placeOf w.cwd path
  · obtain ⟨-, -, hget⟩ := hchanges.tree.readFile_eq_ok_iff.mp hread
    rw [hloc]
    rcases hchanges.cases (placeOf w.cwd path) with hsame | ⟨hl, -⟩ | ⟨-, hdir, -⟩
    · exact Or.inl hsame
    · cases hl
    · exact Or.inr (Or.inr ⟨hdir, bytes, hwhole hloc, hget⟩)
  · exact hchanges.admits (fun hl => absurd hl (Set.notMem_empty _)) hloc

/-- A temporary file may be made. -/
theorem allows_of_mem_states_createTemp {dir name : String} (h : w.disk.IsTree)
    (hne : ∀ k, v.loc ≠ placeOf w.cwd (Path.join dir (w.tempName name k)))
    (hs : s ∈ (Program.request (.createTemp dir name)).states w) : v.Allows w s := by
  rcases Program.of_mem_states_request rfl hs with rfl | hs
  · exact .of_disk_eq h rfl rfl
  · rcases createTemp_cases w dir name with ⟨k, d, n, hc, hrun⟩ | ⟨e, n, hrun⟩
    · rw [hs.trans (congrArg Prod.snd hrun)]
      exact .of_createFile h hc rfl (hne k)
    · rw [hs.trans (congrArg Prod.snd hrun)]
      exact .of_disk_eq h rfl rfl

/-- **From an empty file of another name to the file that is written**, or back again. -/
theorem allows_of_mem_states_fill {n : Nat} (h : w.disk.IsTree)
    (hc : w.disk.createFile w.cwd temp = .ok d) (hne : v.loc ≠ placeOf w.cwd temp)
    (hwhole : v.loc = placeOf w.cwd path → bytes ∈ v.whole)
    (hs : s ∈ (do
      match ← (fillAndMove temp path bytes).outcome with
      | .ok _ => pure ()
      | .error e => do
        Attempt.always (discard temp)
        throw (.io path e) : Attempt GenError Unit).run.states
          { w with disk := d, counter := n }) : v.Allows w s := by
  obtain ⟨d₂, happend, hfilled⟩ := h.exists_appendFile hc bytes
  have hrun := fillAndMove_run (w := { w with disk := d, counter := n }) happend path
  rcases Attempt.mem_states_outcome_bind.mp hs with hs | hs
  · rcases of_mem_states_fillAndMove (w := { w with disk := d, counter := n }) happend hs with
      rfl | hs | rfl | rfl
    · exact .of_createFile h hc rfl hne
    -- some of the bytes have been written, in a file of another name
    · obtain ⟨k, -, rfl⟩ := List.mem_map.mp hs
      obtain ⟨d', hpart, hfilled'⟩ := h.exists_appendFile hc (bytes.extract 0 k)
      rw [hpart]
      exact .of_filled hfilled' rfl hne
    · exact .of_filled hfilled rfl hne
    · rw [hrun]
      cases hr : d₂.renameFile w.cwd temp path with
      | ok d₃ => exact .of_renameFile hfilled hr rfl hwhole
      | error e => exact .of_filled hfilled rfl hne
  · rw [hrun] at hs
    cases hr : d₂.renameFile w.cwd temp path with
    | ok d₃ =>
      rw [hr] at hs
      rw [List.mem_singleton.mp hs]
      exact .of_renameFile hfilled hr rfl hwhole
    | error e =>
      rw [hr] at hs
      obtain ⟨d₃, hremove, hchanges⟩ := hfilled.exists_removeFile
      have hdiscard := Attempt.mem_states_always.mp (Attempt.mem_states_bind_throw.mp hs)
      rcases of_mem_states_discard (w := { w with disk := d₂, counter := n }) hremove hdiscard with
        rfl | rfl
      · exact .of_filled hfilled rfl hne
      · have hnothing := hchanges ∅ ∅
        exact ⟨rfl, hnothing.tree, hnothing.admits (fun hl => absurd hl (Set.notMem_empty _))
          (Set.notMem_empty _)⟩

/-- **Writing a file whole shows it whole.** The watched place is not that of a temporary file. -/
theorem respects_atomicWrite (hway : v.loc ∈ onTheWay v.cwd (parentDir path) → v.way)
    (htemp : ∀ name, Path.fileName path = some name → ∀ (w : World) k,
      v.loc ≠ placeOf v.cwd (parentDir path) ++ [w.tempName name k])
    (hwhole : v.loc = placeOf v.cwd path → bytes ∈ v.whole) :
    (atomicWrite path bytes).run.Respects v := by
  unfold atomicWrite
  simp only
  refine Attempt.respects_bind (Attempt.respects_orFail (respects_createDirs hway) _) fun _ => ?_
  split
  · exact Attempt.respects_throw _
  · rename_i name hname
    intro w hcwd htree s hs
    obtain ⟨-, -, hsegment⟩ := Path.of_fileName hname
    have hne : ∀ k, v.loc ≠ placeOf w.cwd (Path.join (parentDir path) (w.tempName name k)) := by
      intro k
      rw [hcwd, Disk.placeOf_join _ _ (isSegment_tempName w hsegment k)]
      exact htemp name hname w k
    rcases Attempt.mem_states_bind.mp hs with hs | ⟨temp, hok, hs⟩
    · exact allows_of_mem_states_createTemp htree hne (Attempt.mem_states_orFail.mp hs)
    · rcases createTemp_cases w (parentDir path) name with ⟨k, d, n, hc, hrun⟩ | ⟨e, n, hrun⟩
      · rw [Attempt.run_orFail_ok hrun] at hok hs
        cases hok
        refine allows_of_mem_states_fill htree hc (hne k) (fun hloc => hwhole ?_) hs
        rw [hloc, hcwd]
      · rw [Attempt.run_orFail_error hrun] at hok
        cases hok

end Files

/-! ### What belongs to pairs -/

/-- **The whole texts that are meant for a file** of some name, for the pairs with some directory
name. -/
def textsOf (registry : Registry) (pairs : List MappingPair) (dirName name : String) :
    Set ByteArray :=
  {bytes | ∃ pair ∈ pairs, pair.dirName = dirName ∧
    ∃ text, (name, text) ∈ (renderPair registry pair).files ∧ bytes = text.toUTF8}

/-- The watch on a file of a pair. -/
def MappingPair.watch (pair : MappingPair) (registry : Registry) (pairs : List MappingPair)
    (cwd : Location) (out name : String) : Watch where
  cwd := cwd
  loc := pairPlace cwd out pair ++ [name]
  way := ".." ∈ bareSteps out ∧ pairPlace cwd out pair ++ [name] ∈ onTheWay cwd out
  whole := textsOf registry pairs pair.dirName name

section Pairs

variable {registry : Registry} {pairs : List MappingPair} {cwd : Location} {out name : String}
  {onPair : GeneratedPair → Program Unit} {p : MappingPair}

/-- Names of files are all as long as each other, so that none of them is that of a temporary
file. -/
theorem tempName_notMem_artifactNames {name : String} (h : name ∈ artifactNames) (w : World)
    (k : Nat) : w.tempName name k ∉ artifactNames := by
  have hlength : ∀ name ∈ artifactNames, name.length = 20 := by decide
  intro htemp
  have hlong := le_length_tempName w name k
  rw [hlength _ htemp, hlength _ h] at hlong
  omega

/-- The place of one file of a pair is that of another one only if the names are the same. -/
theorem pairPlace_append_inj {q : MappingPair} {name' : String}
    (h : pairPlace cwd out p ++ [name] = pairPlace cwd out q ++ [name']) :
    p.dirName = q.dirName ∧ name = name' := by
  obtain ⟨hpair, hname⟩ := List.append_inj' h rfl
  exact ⟨by simpa using (List.append_inj' hpair rfl).2, by simpa using hname⟩

/-- A directory that is made at the place of a file is one on the way to the output directory. -/
theorem way_of_onTheWay (h : pairPlace cwd out p ++ [name] ∈ onTheWay cwd out) :
    (p.watch registry pairs cwd out name).way := by
  refine ⟨Disk.up_mem_of_onTheWay ?_ h, h⟩
  simp only [pairPlace, List.length_append, List.length_singleton]
  omega

theorem way_of_onTheWay_pairPath {q : MappingPair}
    (h : pairPlace cwd out p ++ [name] ∈ onTheWay cwd (Path.join out q.dirName)) :
    (p.watch registry pairs cwd out name).way := by
  rcases Disk.onTheWay_join cwd out q.isSegment_dirName h with heq | hway
  · have hlength := congrArg List.length heq
    simp [pairPlace] at hlength
  · exact way_of_onTheWay hway

/-- Writing one file of a pair shows it whole. -/
theorem respects_writeFile {q : MappingPair} (hq : q ∈ pairs) (hname : name ∈ artifactNames)
    {file : String × String} (hfile : file ∈ (renderPair registry q).files) :
    (atomicWriteText (Path.join (Path.join out q.dirName) file.1) file.2).run.Respects
      (p.watch registry pairs cwd out name) := by
  have hmem : file.1 ∈ artifactNames := mem_artifactNames hfile
  have hsegment := isSegment_of_mem_artifactNames hmem
  have hparent : parentDir (Path.join (Path.join out q.dirName) file.1) =
      Path.join out q.dirName := parentDir_join_join out q.isSegment_dirName hsegment
  have hplace : placeOf cwd (Path.join (Path.join out q.dirName) file.1) =
      pairPlace cwd out q ++ [file.1] := by
    rw [Disk.placeOf_join _ _ hsegment, placeOf_pairPath]
  refine respects_atomicWrite (fun hway => ?_) (fun last hlast w k htemp => ?_) fun hloc => ?_
  · rw [hparent] at hway
    exact way_of_onTheWay_pairPath hway
  -- the temporary file has the name of the file in it, which none of the files has
  · have hlast' : placeOf cwd _ = placeOf cwd _ ++ [last] := placeOf_fileName hlast
    rw [hplace, hparent, placeOf_pairPath] at hlast'
    obtain ⟨-, rfl⟩ := pairPlace_append_inj hlast'
    rw [hparent] at htemp
    change pairPlace cwd out p ++ [name] = placeOf cwd _ ++ _ at htemp
    rw [placeOf_pairPath] at htemp
    obtain ⟨-, rfl⟩ := pairPlace_append_inj htemp
    exact tempName_notMem_artifactNames hmem w k hname
  · change pairPlace cwd out p ++ [name] = placeOf cwd _ at hloc
    rw [hplace] at hloc
    obtain ⟨hdir, rfl⟩ := pairPlace_append_inj hloc
    exact ⟨q, hq, hdir.symm, file.2, hfile, rfl⟩

/-- Writing the files of a pair shows them whole. -/
theorem respects_writeFiles {q : MappingPair} (hq : q ∈ pairs) (hname : name ∈ artifactNames)
    {files : List (String × String)} (hfiles : files ⊆ (renderPair registry q).files) :
    (writeFiles (Path.join out q.dirName) files).run.Respects
      (p.watch registry pairs cwd out name) := by
  induction files with
  | nil => exact Attempt.respects_pure ()
  | cons file rest ih =>
    obtain ⟨hfile, hrest⟩ := List.cons_subset.mp hfiles
    rw [writeFiles]
    exact Attempt.respects_bind (respects_writeFile hq hname hfile) fun _ => ih hrest

theorem quiet_reportUnknown (registry : Registry) (pair : MappingPair) :
    (reportUnknown registry pair).Quiet := by
  unfold reportUnknown
  split
  · exact Program.quiet_pure ()
  · exact quiet_report _

theorem quiet_reportUnmapped (registry : Registry) (pair : MappingPair) :
    (reportUnmapped registry pair).Quiet := by
  unfold reportUnmapped
  dsimp only
  split
  · exact quiet_report _
  · exact Program.quiet_pure ()

/-- **Generating what belongs to a pair** shows its files whole. -/
theorem respects_generatePair (honPair : ∀ entry, (onPair entry).Quiet) {q : MappingPair}
    (hq : q ∈ pairs) (hname : name ∈ artifactNames) :
    (generatePair registry out onPair q).run.Respects (p.watch registry pairs cwd out name) := by
  have hfiles : (writePair out (renderPair registry q)).run.Respects
      (p.watch registry pairs cwd out name) := by
    refine Attempt.respects_bind (Attempt.respects_orFail
      (respects_createDirs way_of_onTheWay_pairPath) _) fun _ => ?_
    exact Attempt.respects_bind (respects_writeFiles hq hname (List.Subset.refl _)) fun _ =>
      Attempt.respects_pure _
  unfold generatePair
  refine Attempt.respects_bind
    (Attempt.respects_always ((quiet_reportUnknown registry q).respects _)) fun _ => ?_
  refine Attempt.respects_bind
    (Attempt.respects_always ((quiet_reportUnmapped registry q).respects _)) fun _ => ?_
  refine Attempt.respects_bind hfiles fun dir => ?_
  refine Attempt.respects_bind
    (Attempt.respects_always ((quiet_report _).respects _)) fun _ => ?_
  exact Attempt.respects_bind
    (Attempt.respects_always ((honPair _).respects _)) fun _ => Attempt.respects_pure _

/-- The run through some of the pairs. -/
theorem respects_generateAll (honPair : ∀ entry, (onPair entry).Quiet) {qs : List MappingPair}
    (hqs : qs ⊆ pairs) (hname : name ∈ artifactNames) :
    (generateAll registry out onPair qs).run.Respects (p.watch registry pairs cwd out name) := by
  induction qs with
  | nil => exact Attempt.respects_pure []
  | cons q rest ih =>
    obtain ⟨hq, hrest⟩ := List.cons_subset.mp hqs
    rw [generateAll]
    refine Attempt.respects_bind (respects_generatePair honPair hq hname) fun entry => ?_
    exact Attempt.respects_bind (ih hrest) fun entries => Attempt.respects_pure _

/-- **A run of the generator respects the watch on each file of each pair.** -/
theorem respects_generate (honPair : ∀ entry, (onPair entry).Quiet) (hname : name ∈ artifactNames) :
    (generate registry pairs out onPair).run.Respects (p.watch registry pairs cwd out name) := by
  refine Attempt.respects_bind
    (Attempt.respects_orFail (respects_createDirs way_of_onTheWay) _) fun _ => ?_
  exact Attempt.respects_bind (respects_generateAll honPair (List.Subset.refl _) hname) fun _ =>
    Attempt.respects_pure _

end Pairs

/-! ### At any time -/

/-- The watch on the file of an index. -/
def MappingIndex.watch (index : MappingIndex) (cwd : Location) (path : String) : Watch where
  cwd := cwd
  loc := placeOf cwd path
  way := (".." ∈ bareSteps (parentDir path) ∨ Path.fileName path = none) ∧
    placeOf cwd path ∈ onTheWay cwd (parentDir path)
  whole := {index.text.toUTF8}

/-- **Writing an index respects the watch on its file.** -/
theorem respects_writeIndex (index : MappingIndex) (cwd : Location) (path : String) :
    (writeIndex path index).run.Respects (index.watch cwd path) := by
  refine respects_atomicWrite (fun hway => ⟨?_, hway⟩) (fun name hname w k htemp => ?_) fun _ => rfl
  · cases hname : Path.fileName path with
    | none => exact Or.inr rfl
    | some name =>
      refine Or.inl (Disk.up_mem_of_onTheWay ?_ hway)
      rw [MappingIndex.watch, placeOf_fileName hname, List.length_append]
      exact Nat.lt_succ_self _
  · change placeOf cwd path = placeOf cwd _ ++ _ at htemp
    rw [placeOf_fileName hname] at htemp
    have hlong := le_length_tempName w name k
    rw [← List.singleton_inj.mp (List.append_cancel_left htemp)] at hlong
    omega

/-- **What stands at the place of a file at any time of the run that writes it** is what stood there
before, or a whole text that is meant for it. Where nothing stood a directory may come to stand,
but only if the path of the output directory leads through that place. -/
theorem whole_of_mem_states {onPair : GeneratedPair → Program Unit} {w : World}
    (h : w.disk.IsTree) (honPair : ∀ entry, (onPair entry).Quiet) (registry : Registry)
    (pairs : List MappingPair) (out : String) :
    (∀ s ∈ (generate registry pairs out onPair).run.states w, ∀ pair ∈ pairs,
        ∀ name ∈ artifactNames,
        Admits (".." ∈ bareSteps out ∧ pairPlace w.cwd out pair ++ [name] ∈ onTheWay w.cwd out)
          (textsOf registry pairs pair.dirName name)
          (w.disk.get? (pairPlace w.cwd out pair ++ [name]))
          (s.disk.get? (pairPlace w.cwd out pair ++ [name]))) ∧
      ∀ (index : MappingIndex) (path : String), ∀ s ∈ (writeIndex path index).run.states w,
        Admits ((".." ∈ bareSteps (parentDir path) ∨ Path.fileName path = none) ∧
            placeOf w.cwd path ∈ onTheWay w.cwd (parentDir path)) {index.text.toUTF8}
          (w.disk.get? (placeOf w.cwd path)) (s.disk.get? (placeOf w.cwd path)) := by
  constructor
  · intro s hs pair _ name hname
    have hgenerate : (generate registry pairs out onPair).run.Respects
        (pair.watch registry pairs w.cwd out name) := respects_generate honPair hname
    exact (hgenerate w rfl h s hs).admits
  · intro index path s hs
    exact (respects_writeIndex index w.cwd path w rfl h s hs).admits

/-- A stub that is there from before is written over, all at once. -/
theorem whole_of_mem_states_rewritten : ∃ disk : Disk, disk.IsTree ∧
    disk.get? ["work", "out", "A_to_B", javaFile] = some (.file "old".toUTF8) ∧
    ∀ s ∈ (generate .empty [⟨"A", "B"⟩] "out" announce).run.states (.start disk ["work"]),
      s.disk.get? ["work", "out", "A_to_B", javaFile] = some (.file "old".toUTF8) ∨
        s.disk.get? ["work", "out", "A_to_B", javaFile] =
          some (.file (renderPair .empty ⟨"A", "B"⟩).javaStub.toUTF8) := by
  have htree : (⟨[(["work"], .directory), (["work", "out"], .directory),
      (["work", "out", "A_to_B"], .directory),
      (["work", "out", "A_to_B", javaFile], .file "old".toUTF8)]⟩ : Disk).IsTree := by
    decide +kernel
  have hplace : pairPlace ["work"] "out" ⟨"A", "B"⟩ ++ [javaFile] =
      ["work", "out", "A_to_B", javaFile] := by decide +kernel
  have hup : ".." ∉ bareSteps "out" := by decide +kernel
  refine ⟨_, htree, by decide +kernel, fun s hs => ?_⟩
  have hwhole := (whole_of_mem_states (w := .start _ ["work"]) htree quiet_announce .empty
    [⟨"A", "B"⟩] "out").1 s hs ⟨"A", "B"⟩ List.mem_cons_self javaFile List.mem_cons_self
  change Admits _ _ (Disk.get? _ (pairPlace ["work"] "out" ⟨"A", "B"⟩ ++ [javaFile]))
    (s.disk.get? (pairPlace ["work"] "out" ⟨"A", "B"⟩ ++ [javaFile])) at hwhole
  rw [hplace] at hwhole
  rcases hwhole with hsame | ⟨⟨hc, -⟩, -⟩ | ⟨-, bytes, ⟨pair, hpair, -, text, htext, rfl⟩, hfile⟩
  · left
    rw [hsame]
    decide +kernel
  · exact absurd hc hup
  · right
    obtain rfl := List.mem_singleton.mp hpair
    have hjava : text = (renderPair .empty ⟨"A", "B"⟩).javaStub := by
      simpa [Artifacts.files, javaFile, kotlinFile, detailsFile] using htext
    rw [hfile, hjava]

/-- **A path that leads through the place of a file** makes a directory there. -/
theorem directory_of_mem_states : ∃ disk : Disk, disk.IsTree ∧
    ¬ ∀ s ∈ (generate .empty [⟨"K", "J"⟩] "K_to_J/java-definition.java/../.." announce).run.states
        (.start disk ["work"]), ∀ pair ∈ [(⟨"K", "J"⟩ : MappingPair)], ∀ name ∈ artifactNames,
      s.disk.get? (pairPlace ["work"] "K_to_J/java-definition.java/../.." pair ++ [name]) =
          disk.get? (pairPlace ["work"] "K_to_J/java-definition.java/../.." pair ++ [name]) ∨
        ∃ bytes ∈ textsOf .empty [⟨"K", "J"⟩] pair.dirName name,
          s.disk.get? (pairPlace ["work"] "K_to_J/java-definition.java/../.." pair ++ [name]) =
            some (.file bytes) := by
  have htree : (⟨[(["work"], .directory)]⟩ : Disk).IsTree := by decide +kernel
  have hplace : pairPlace ["work"] "K_to_J/java-definition.java/../.." ⟨"K", "J"⟩ ++ [javaFile] =
      ["work", "K_to_J", javaFile] := by decide +kernel
  have hmade : ∃ s ∈ (generate .empty [⟨"K", "J"⟩] "K_to_J/java-definition.java/../.."
      announce).run.states (.start ⟨[(["work"], .directory)]⟩ ["work"]),
      s.disk.get? ["work", "K_to_J", javaFile] = some .directory := by decide +kernel
  refine ⟨_, htree, fun hall => ?_⟩
  obtain ⟨s, hs, hdir⟩ := hmade
  have hwhole := hall s hs ⟨"K", "J"⟩ List.mem_cons_self javaFile List.mem_cons_self
  rw [hplace, hdir] at hwhole
  rcases hwhole with hsame | ⟨bytes, -, hfile⟩
  · exact absurd hsame (by decide +kernel)
  · cases hfile

end TwinTypes
