import TwinTypes.Proofs.DirectoryName
import TwinTypes.Proofs.Run.WholeFile
import TwinTypes.Run.Generate

/-!
# What generating does

A run goes through its pairs in order and ends at the first one that fails. `generate_run` says
where that leaves everything, for every list of pairs and every way to fail: which pairs the
observer has been told of, which files hold what belongs to a pair, and which places may have
changed.

Each pair has a directory of its own, and only what is written for it is written there – but for
pairs that have the same directory name. So what a pair leaves behind is what can be read at the
end, as long as no later pair of that name has been attempted. The statements are for any observer
that leaves the disk alone (`TwinTypes.Observes`).
-/

namespace TwinTypes

open Disk (placeOf onTheWay)

/-! ### Where the files of pairs are -/

/-- What the observer is told of a pair. -/
def MappingPair.generatedIn (pair : MappingPair) (out : String) : GeneratedPair :=
  ⟨pair.kotlin, pair.java, Path.join out pair.dirName⟩

theorem MappingPair.generatedIn_dir (pair : MappingPair) (out : String) :
    (pair.generatedIn out).dir = Path.join out pair.dirName := rfl

/-- The place of the directory of a pair. -/
def pairPlace (cwd : Location) (out : String) (pair : MappingPair) : Location :=
  placeOf cwd out ++ [pair.dirName]

/-- The names of the files of a pair. -/
def artifactNames : List String :=
  [javaFile, kotlinFile, detailsFile]

/-- The places at which directories are made for some pairs. -/
def directoriesOf (cwd : Location) (out : String) (pairs : List MappingPair) : Set Location :=
  onTheWay cwd out ∪ {loc | ∃ pair ∈ pairs, loc = pairPlace cwd out pair}

/-- The places at which files are put for some pairs. -/
def filesOf (cwd : Location) (out : String) (pairs : List MappingPair) : Set Location :=
  {loc | ∃ pair ∈ pairs, ∃ name ∈ artifactNames, loc = pairPlace cwd out pair ++ [name]}

/-- **A directory holds what belongs to a pair**: each file can be read, and has its text. -/
def World.Holds (w : World) (dir : String) (artifacts : Artifacts) : Prop :=
  ∀ file ∈ artifacts.files, w.disk.readFile w.cwd (Path.join dir file.1) = .ok file.2.toUTF8

theorem isSegment_of_mem_artifactNames {name : String} (h : name ∈ artifactNames) :
    Path.IsSegment name := by
  simp only [artifactNames, List.mem_cons, List.not_mem_nil, or_false] at h
  rcases h with rfl | rfl | rfl
  · exact ⟨by decide, by decide, by decide, by decide⟩
  · exact ⟨by decide, by decide, by decide, by decide⟩
  · exact ⟨by decide, by decide, by decide, by decide⟩

theorem nul_notMem_of_mem_artifactNames {name : String} (h : name ∈ artifactNames) :
    '\x00' ∉ name.toList := by
  simp only [artifactNames, List.mem_cons, List.not_mem_nil, or_false] at h
  rcases h with rfl | rfl | rfl
  · decide
  · decide
  · decide

theorem artifactNames_nodup : artifactNames.Nodup := by decide

theorem map_fst_files (a : Artifacts) : a.files.map Prod.fst = artifactNames := rfl

theorem mem_artifactNames {a : Artifacts} {file : String × String} (h : file ∈ a.files) :
    file.1 ∈ artifactNames := by
  rw [← map_fst_files a]
  exact List.mem_map_of_mem h

theorem placeOf_pairPath (cwd : Location) (out : String) (pair : MappingPair) :
    placeOf cwd (Path.join out pair.dirName) = pairPlace cwd out pair :=
  Disk.placeOf_join cwd out pair.isSegment_dirName

theorem directoriesOf_mono {cwd : Location} {out : String} {pairs pairs' : List MappingPair}
    (h : pairs ⊆ pairs') : directoriesOf cwd out pairs ⊆ directoriesOf cwd out pairs' := by
  rintro loc (hway | ⟨pair, hmem, rfl⟩)
  · exact Or.inl hway
  · exact Or.inr ⟨pair, h hmem, rfl⟩

theorem filesOf_mono {cwd : Location} {out : String} {pairs pairs' : List MappingPair}
    (h : pairs ⊆ pairs') : filesOf cwd out pairs ⊆ filesOf cwd out pairs' := by
  rintro loc ⟨pair, hmem, name, hname, rfl⟩
  exact ⟨pair, h hmem, name, hname, rfl⟩

theorem onTheWay_pairPath (cwd : Location) (out : String) (pair : MappingPair) :
    onTheWay cwd (Path.join out pair.dirName) ⊆ directoriesOf cwd out [pair] := by
  intro loc hloc
  rcases Disk.onTheWay_join cwd out pair.isSegment_dirName hloc with rfl | hway
  · exact Or.inr ⟨pair, by simp, rfl⟩
  · exact Or.inl hway

theorem World.Holds.congr {w w' : World} {dir : String} {a : Artifacts} (h : w.Holds dir a)
    (hdisk : w'.disk = w.disk) (hcwd : w'.cwd = w.cwd) : w'.Holds dir a := by
  intro file hfile
  rw [hdisk, hcwd]
  exact h file hfile

/-- **What a directory holds stays** as long as none of its files is written. -/
theorem World.Holds.of_changes {w w' : World} {dir : String} {a : Artifacts}
    {dirs files : Set Location} (h : w.Holds dir a) (ht : w.disk.IsTree) (hcwd : w'.cwd = w.cwd)
    (hdisk : w.disk.Changes dirs files w'.disk)
    (hfiles : ∀ name ∈ artifactNames, placeOf w.cwd (Path.join dir name) ∉ files) :
    w'.Holds dir a := by
  intro file hfile
  rw [hcwd]
  exact hdisk.readFile ht (h file hfile) (hfiles file.1 (mem_artifactNames hfile))

theorem placeOf_artifact (cwd : Location) (out : String) (pair : MappingPair) {name : String}
    (hname : name ∈ artifactNames) :
    placeOf cwd (Path.join (Path.join out pair.dirName) name) =
      pairPlace cwd out pair ++ [name] := by
  rw [Disk.placeOf_join _ _ (isSegment_of_mem_artifactNames hname), placeOf_pairPath]

/-- It stays as long as nothing is written for a pair with its name. -/
theorem World.Holds.mono {w w' : World} {out : String} {pair : MappingPair} {a : Artifacts}
    {dirs : Set Location} {pairs : List MappingPair} (h : w.Holds (Path.join out pair.dirName) a)
    (ht : w.disk.IsTree) (hcwd : w'.cwd = w.cwd)
    (hdisk : w.disk.Changes dirs (filesOf w.cwd out pairs) w'.disk)
    (hother : ∀ p ∈ pairs, p.dirName ≠ pair.dirName) :
    w'.Holds (Path.join out pair.dirName) a := by
  refine h.of_changes ht hcwd hdisk fun name hname => ?_
  rw [placeOf_artifact _ _ _ hname]
  rintro ⟨p, hp, name', -, heq⟩
  have hplace := (List.append_inj' heq rfl).1
  have hdir := (List.append_inj' hplace rfl).2
  exact hother p hp (by simpa using hdir.symm)

/-! ### One pair -/

section Pair

variable {w : World}

/-- What writing files into a directory leaves behind. -/
structure FilesWritten (dir : String) (files : List (String × String)) (w : World)
    (result : Except GenError Unit × World) : Prop where
  /-- Files of these names may have been written. -/
  edits : w.Edits (onTheWay w.cwd dir) {loc | ∃ f ∈ files, loc = placeOf w.cwd dir ++ [f.1]}
    result.2
  /-- After a success each has its text. -/
  readFile : result.1 = .ok () → ∀ f ∈ files,
    result.2.disk.readFile result.2.cwd (Path.join dir f.1) = .ok f.2.toUTF8

/-- **Writing files into a directory.** The names are different, so no file is written over. -/
theorem writeFiles_run (h : w.disk.IsTree) {path last : String} (hlast : Path.IsSegment last)
    {files : List (String × String)} (hnames : ∀ f ∈ files, Path.IsSegment f.1)
    (hnodup : (files.map Prod.fst).Nodup) {dir : String} (hdir : dir = Path.join path last) :
    FilesWritten dir files w ((writeFiles dir files).run.run w) := by
  induction files generalizing w with
  | nil => exact ⟨.refl h, by simp⟩
  | cons file rest ih =>
    obtain ⟨name, text⟩ := file
    have hname : Path.IsSegment name := hnames _ List.mem_cons_self
    obtain ⟨hfresh, hnodup⟩ := List.nodup_cons.mp hnodup
    have hwritten : Written _ _ _ w ((atomicWriteText (Path.join dir name) text).run.run w) :=
      atomicWrite_run h (Path.join dir name) text.toUTF8
    have hparent : parentDir (Path.join dir name) = dir := by
      rw [hdir, parentDir_join_join path hlast hname]
    have hplace : placeOf w.cwd (Path.join dir name) = placeOf w.cwd dir ++ [name] :=
      Disk.placeOf_join _ _ hname
    rw [hparent] at hwritten
    have hhead : {placeOf w.cwd (Path.join dir name)} ⊆
        {loc | ∃ f ∈ (name, text) :: rest, loc = placeOf w.cwd dir ++ [f.1]} := by
      rintro loc rfl
      exact ⟨_, List.mem_cons_self, hplace⟩
    rw [writeFiles]
    rcases hw : (atomicWriteText (Path.join dir name) text).run.run w with ⟨e | u, w₁⟩
    · rw [hw] at hwritten
      rw [Attempt.run_bind_error hw]
      exact ⟨hwritten.edits.mono subset_rfl hhead, nofun⟩
    · rw [hw] at hwritten
      rw [Attempt.run_bind_ok hw]
      have hfirst := hwritten.edits
      have hrest :=
        ih hfirst.tree (fun f hf => hnames f (List.mem_cons_of_mem _ hf)) hnodup
      have hedits := hrest.edits
      rw [hfirst.cwd] at hedits
      refine ⟨(hfirst.mono subset_rfl hhead).trans (hedits.mono subset_rfl ?_), fun hok f hf => ?_⟩
      · rintro loc ⟨f, hf, hloc⟩
        exact ⟨f, List.mem_cons_of_mem _ hf, hloc⟩
      · rcases List.mem_cons.mp hf with rfl | hf
        -- what the first file holds is not written over, as the others have other names
        · refine hedits.readFile hfirst.tree (hwritten.readFile rfl) ?_
          rw [hfirst.cwd, hplace]
          rintro ⟨f, hf, heq⟩
          have hsame : name = f.1 := by simpa using heq
          exact hfresh (List.mem_map.mpr ⟨f, hf, hsame.symm⟩)
        · exact hrest.readFile hok f hf

/-- What writing the files of a pair leaves behind: if it succeeds, the directory with all of
them. -/
structure PairWritten (out : String) (pair : MappingPair) (a : Artifacts) (w : World)
    (result : Except GenError String × World) : Prop where
  /-- Directories may have been made on the way, and files put into the directory of the pair. -/
  edits : w.Edits (directoriesOf w.cwd out [pair]) (filesOf w.cwd out [pair]) result.2
  /-- The directory is given, and holds what belongs to the pair. -/
  holds : ∀ dir, result.1 = .ok dir →
    dir = Path.join out pair.dirName ∧ result.2.Holds (Path.join out pair.dirName) a

/-- **Writing the files of a pair.** -/
theorem writePair_run (h : w.disk.IsTree) (out : String) {pair : MappingPair} {a : Artifacts}
    (ha : a.dirName = pair.dirName) :
    PairWritten out pair a w ((writePair out a).run.run w) := by
  have hway := onTheWay_pairPath w.cwd out pair
  have hmade := createDirs_run h (Path.join out pair.dirName)
  unfold writePair
  rw [ha]
  simp only
  -- the directory goes by a name from here on, as its letters do not matter
  generalize hdir : Path.join out pair.dirName = dir at hway hmade
  rcases hdirs : (createDirs dir).run.run w with ⟨e | u, w₁⟩
  · rw [hdirs] at hmade
    rw [Attempt.run_bind_error (Attempt.run_orFail_error hdirs)]
    exact ⟨hmade.edits.mono hway (Set.empty_subset _), nofun⟩
  · rw [hdirs] at hmade
    have hfirst := hmade.edits
    rw [Attempt.run_bind_ok (Attempt.run_orFail_ok hdirs)]
    have hnames : ∀ f ∈ a.files, Path.IsSegment f.1 := fun f hf =>
      isSegment_of_mem_artifactNames (mem_artifactNames hf)
    have hwritten := writeFiles_run hfirst.tree pair.isSegment_dirName hnames
      (by rw [map_fst_files]; exact artifactNames_nodup) hdir.symm
    have hfiles : {loc | ∃ f ∈ a.files, loc = placeOf w.cwd dir ++ [f.1]} ⊆
        filesOf w.cwd out [pair] := by
      rintro loc ⟨f, hf, hloc⟩
      rw [← hdir, placeOf_pairPath] at hloc
      exact ⟨pair, by simp, f.1, mem_artifactNames hf, hloc⟩
    rcases hw : (writeFiles dir a.files).run.run w₁ with ⟨e | u, w₂⟩
    · rw [hw] at hwritten
      have hedits := hwritten.edits
      rw [hfirst.cwd] at hedits
      rw [Attempt.run_bind_error hw]
      exact ⟨(hfirst.mono hway (Set.empty_subset _)).trans (hedits.mono hway hfiles), nofun⟩
    · rw [hw] at hwritten
      have hedits := hwritten.edits
      rw [hfirst.cwd] at hedits
      rw [Attempt.run_bind_ok hw, Attempt.run_pure]
      refine ⟨(hfirst.mono hway (Set.empty_subset _)).trans (hedits.mono hway hfiles),
        fun dir' hok => ?_⟩
      rw [← Except.ok.inj hok, hdir]
      exact ⟨rfl, hwritten.readFile rfl⟩

theorem logs_reportUnknown (registry : Registry) (pair : MappingPair) (w : World) :
    w.Logs ((reportUnknown registry pair).run w).2 := by
  unfold reportUnknown
  split
  · exact .refl w
  · exact logs_report _ w

theorem logs_reportUnmapped (registry : Registry) (pair : MappingPair) (w : World) :
    w.Logs ((reportUnmapped registry pair).run w).2 := by
  unfold reportUnmapped
  dsimp only
  split
  · exact logs_report _ w
  · exact .refl w

/-- **Generating what belongs to a pair** writes its files and tells the observer, or fails before
it does. -/
theorem generatePair_run (h : w.disk.IsTree) (registry : Registry) (out : String)
    (onPair : GeneratedPair → Program Unit) (pair : MappingPair) :
    ∃ w', w.Edits (directoriesOf w.cwd out [pair]) (filesOf w.cwd out [pair]) w' ∧
      ((w'.Holds (Path.join out pair.dirName) (renderPair registry pair) ∧
          (generatePair registry out onPair pair).run.run w =
            (.ok (pair.generatedIn out), ((onPair (pair.generatedIn out)).run w').2)) ∨
        ∃ e, (generatePair registry out onPair pair).run.run w = (.error e, w')) := by
  -- the reports before the files are written leave the disk alone
  have hlogs := (logs_reportUnknown registry pair w).trans (logs_reportUnmapped registry pair _)
  have hreports := hlogs.edits h (directoriesOf w.cwd out [pair]) (filesOf w.cwd out [pair])
  unfold generatePair
  rw [Attempt.run_always_bind, Attempt.run_always_bind]
  generalize ((reportUnmapped registry pair).run ((reportUnknown registry pair).run w).2).2 = w₁
    at hreports
  have hwritten := writePair_run hreports.tree out (rfl : (renderPair registry pair).dirName = _)
  have hedits := hwritten.edits
  rw [hreports.cwd] at hedits
  rcases hw : (writePair out (renderPair registry pair)).run.run w₁ with ⟨e | dir, w₂⟩
  · rw [hw] at hedits
    exact ⟨w₂, hreports.trans hedits, Or.inr ⟨e, by rw [Attempt.run_bind_error hw]⟩⟩
  · rw [hw] at hedits hwritten
    obtain ⟨hdir, hholds⟩ := hwritten.holds dir rfl
    rw [Attempt.run_bind_ok hw, Attempt.run_always_bind]
    have hreport := (logs_report ⟨.info, genTarget, "generated mapping",
      pairFields pair ++ [("dir", .text dir)]⟩ w₂).edits hedits.tree
        (directoriesOf w.cwd out [pair]) (filesOf w.cwd out [pair])
    refine ⟨_, (hreports.trans hedits).trans hreport, Or.inl ⟨hholds, ?_⟩⟩
    rw [Attempt.run_always_bind, Attempt.run_pure, hdir]
    rfl

end Pair

/-! ### Observers -/

/-- **An observer that leaves the disk alone**, and what it makes known. -/
structure Observes (onPair : GeneratedPair → Program Unit)
    (note : List GeneratedPair × String → GeneratedPair → List GeneratedPair × String) : Prop where
  /-- It stays in the directory. -/
  cwd : ∀ entry w, ((onPair entry).run w).2.cwd = w.cwd
  /-- It leaves the disk alone. -/
  disk : ∀ entry w, ((onPair entry).run w).2.disk = w.disk
  /-- What is known afterwards. -/
  seen : ∀ entry w, ((onPair entry).run w).2.seen = note w.seen entry

theorem observes_announce : Observes announce fun known entry => (known.1 ++ [entry], known.2) :=
  ⟨fun _ _ => rfl, fun _ _ => rfl, fun _ _ => rfl⟩

theorem foldl_announce (known : List GeneratedPair × String) (entries : List GeneratedPair) :
    entries.foldl (fun known entry => (known.1 ++ [entry], known.2)) known =
      (known.1 ++ entries, known.2) := by
  induction entries generalizing known with
  | nil => simp
  | cons entry rest ih => simp [ih]

/-! ### The run through the pairs -/

section Run

variable {registry : Registry} {out : String} {onPair : GeneratedPair → Program Unit}
  {note : List GeneratedPair × String → GeneratedPair → List GeneratedPair × String} {w : World}

/-- **What attempting some pairs leaves behind**, the first `n` of which succeed. -/
structure Leaves (registry : Registry) (out : String)
    (note : List GeneratedPair × String → GeneratedPair → List GeneratedPair × String)
    (tried : List MappingPair) (n : Nat) (w w' : World) : Prop where
  /-- The program works in the same directory. -/
  cwd : w'.cwd = w.cwd
  /-- The observer has been told of the pairs that succeed, in order. -/
  seen : w'.seen = ((tried.take n).map (·.generatedIn out)).foldl note w.seen
  /-- Nothing has changed but at the places of these pairs. -/
  disk : w.disk.Changes (directoriesOf w.cwd out tried) (filesOf w.cwd out tried) w'.disk
  /-- What belongs to a pair is there, unless a later one has the same directory name. -/
  holds : ∀ i (hi : i < tried.length), i < n →
    (∀ j (hj : j < tried.length), i < j → tried[j].dirName ≠ tried[i].dirName) →
    w'.Holds (Path.join out tried[i].dirName) (renderPair registry tried[i])

/-- Nothing has been attempted; directories may have been made on the way. -/
theorem Leaves.nil {w' : World} (h : w.Edits (onTheWay w.cwd out) ∅ w') :
    Leaves registry out note [] 0 w w' where
  cwd := h.cwd
  seen := h.seen
  disk := h.disk.mono (fun _ hl => Or.inl hl) (Set.empty_subset _)
  holds _ hi := nomatch hi

/-- A pair has been attempted and has failed. -/
theorem Leaves.failed {w' : World} {pair : MappingPair}
    (h : w.Edits (directoriesOf w.cwd out [pair]) (filesOf w.cwd out [pair]) w') :
    Leaves registry out note [pair] 0 w w' where
  cwd := h.cwd
  seen := h.seen
  disk := h.disk
  holds _ _ hn := nomatch hn

/-- Directories may have been made before. -/
theorem Leaves.after {w₁ w' : World} {tried : List MappingPair} {n : Nat}
    (h : Leaves registry out note tried n w₁ w') (hedits : w.Edits (onTheWay w.cwd out) ∅ w₁) :
    Leaves registry out note tried n w w' where
  cwd := h.cwd.trans hedits.cwd
  seen := by rw [h.seen, hedits.seen]
  disk := by
    have hdisk := h.disk
    rw [hedits.cwd] at hdisk
    exact (hedits.disk.mono (fun _ hl => Or.inl hl) (Set.empty_subset _)).trans hdisk
  holds := h.holds

/-- **One more pair at the front**: its files have been written, the observer has been told of it,
and then the others have been attempted. -/
theorem Leaves.cons {w₁ w' : World} {pair : MappingPair} {tried : List MappingPair} {n : Nat}
    (hobs : Observes onPair note)
    (hedits : w.Edits (directoriesOf w.cwd out [pair]) (filesOf w.cwd out [pair]) w₁)
    (hholds : w₁.Holds (Path.join out pair.dirName) (renderPair registry pair))
    (h : Leaves registry out note tried n ((onPair (pair.generatedIn out)).run w₁).2 w') :
    Leaves registry out note (pair :: tried) (n + 1) w w' := by
  have hcwd := h.cwd
  have hseen := h.seen
  have hdisk := h.disk
  rw [hobs.cwd] at hcwd
  rw [hobs.seen, hedits.seen] at hseen
  rw [hobs.disk, hobs.cwd] at hdisk
  refine ⟨hcwd.trans hedits.cwd, ?_, ?_, fun i hi hn hother => ?_⟩
  · rw [hseen, List.take_succ_cons, List.map_cons, List.foldl_cons]
  · have hrest := hdisk
    rw [hedits.cwd] at hrest
    exact (hedits.disk.mono (directoriesOf_mono (by simp)) (filesOf_mono (by simp))).trans
      (hrest.mono (directoriesOf_mono (by simp)) (filesOf_mono (by simp)))
  · cases i with
    | zero =>
      -- the files of the new pair stay, as no other has its directory name
      refine hholds.mono hedits.tree hcwd hdisk fun p hp => ?_
      obtain ⟨j, hj, rfl⟩ := List.mem_iff_getElem.mp hp
      exact hother (j + 1) (by simpa using hj) (by omega)
    | succ i =>
      refine h.holds i (by simpa using hi) (by omega) fun j hj hlt => ?_
      exact hother (j + 1) (by simpa using hj) (by omega)

/-- **The pair keeps its directory**: no pair after it has the same directory name. -/
def MappingPair.LastIn (pair : MappingPair) (pairs : List MappingPair) : Prop :=
  ∃ before after, pairs = before ++ pair :: after ∧ ∀ q ∈ after, q.dirName ≠ pair.dirName

theorem MappingPair.LastIn.mem {pair : MappingPair} {pairs : List MappingPair}
    (h : pair.LastIn pairs) : pair ∈ pairs := by
  obtain ⟨before, after, rfl, -⟩ := h
  simp

/-- Each directory is kept by some pair. -/
theorem MappingPair.exists_lastIn {pairs : List MappingPair} {dir : String}
    (h : ∃ pair ∈ pairs, pair.dirName = dir) :
    ∃ pair : MappingPair, pair.LastIn pairs ∧ pair.dirName = dir := by
  induction pairs with
  | nil => simp at h
  | cons p rest ih =>
    by_cases hlater : ∃ pair ∈ rest, pair.dirName = dir
    · obtain ⟨pair, ⟨before, after, rfl, hafter⟩, hdir⟩ := ih hlater
      exact ⟨pair, ⟨p :: before, after, rfl, hafter⟩, hdir⟩
    · obtain ⟨pair, hmem, rfl⟩ := h
      rcases List.mem_cons.mp hmem with rfl | hmem
      · exact ⟨pair, ⟨[], rest, rfl, fun q hq hdir => hlater ⟨q, hq, hdir⟩⟩, rfl⟩
      · exact absurd ⟨pair, hmem, rfl⟩ hlater

/-- **What belongs to a pair that keeps its directory is there.** -/
theorem Leaves.holds_of_lastIn {w' : World} {tried : List MappingPair} {pair : MappingPair}
    (h : Leaves registry out note tried tried.length w w') (hlast : pair.LastIn tried) :
    w'.Holds (Path.join out pair.dirName) (renderPair registry pair) := by
  obtain ⟨before, after, rfl, hafter⟩ := hlast
  have hholds := h.holds before.length (by simp) (by simp) fun j hj hlt => by
    obtain ⟨k, rfl⟩ := Nat.exists_eq_add_of_lt hlt
    have hk : before.length + k + 1 - before.length = k + 1 := by omega
    rw [List.getElem_append_right (by omega), List.getElem_append_right (by omega)]
    simp only [Nat.sub_self, List.getElem_cons_zero, hk, List.getElem_cons_succ]
    exact hafter _ (List.getElem_mem _)
  simpa using hholds

/-- What belongs to a pair is there if no other pair has its directory name. -/
theorem Leaves.holds_of_mem {w' : World} {tried : List MappingPair} {pair : MappingPair}
    (h : Leaves registry out note tried tried.length w w') (hmem : pair ∈ tried)
    (hother : ∀ p ∈ tried, p.dirName = pair.dirName → p = pair) :
    w'.Holds (Path.join out pair.dirName) (renderPair registry pair) := by
  obtain ⟨p, hlast, hdir⟩ := MappingPair.exists_lastIn ⟨pair, hmem, rfl⟩
  exact h.holds_of_lastIn (hother p hlast.mem hdir ▸ hlast)

/-- A pair that succeeds is followed by the run through the others. -/
theorem generateAll_cons_run {pair : MappingPair} {entry : GeneratedPair} {w₁ : World}
    (hpair : (generatePair registry out onPair pair).run.run w = (.ok entry, w₁))
    (rest : List MappingPair) :
    (generateAll registry out onPair (pair :: rest)).run.run w =
      (((generateAll registry out onPair rest).run.run w₁).1.map (entry :: ·),
        ((generateAll registry out onPair rest).run.run w₁).2) := by
  rw [generateAll, Attempt.run_bind_ok hpair, Attempt.run_bind_pure]

/-- **How the run through the pairs stops** after `n` of them, those attempted being given. -/
inductive Stops (registry : Registry) (out : String) (onPair : GeneratedPair → Program Unit)
    (pairs : List MappingPair) (w : World) :
    (result : Except GenError (List GeneratedPair) × World) → (n : Nat) →
      (tried : List MappingPair) → Prop
  /-- Every pair succeeds. -/
  | finished (w' : World) : Stops registry out onPair pairs w
      (.ok (pairs.map (·.generatedIn out)), w') pairs.length pairs
  /-- A pair fails where the run through those before it has stopped. -/
  | failedAt (n : Nat) (hn : n < pairs.length) (e : GenError) (w₁ w' : World)
      (before : (generateAll registry out onPair (pairs.take n)).run.run w =
        (.ok ((pairs.take n).map (·.generatedIn out)), w₁))
      (failure : (generatePair registry out onPair pairs[n]).run.run w₁ = (.error e, w')) :
      Stops registry out onPair pairs w (.error e, w') n (pairs.take (n + 1))

/-- A pair that succeeds moves the stop by one. -/
theorem Stops.cons {pair : MappingPair} {rest tried : List MappingPair} {n : Nat} {w₁ : World}
    (hpair : (generatePair registry out onPair pair).run.run w =
      (.ok (pair.generatedIn out), w₁))
    (h : Stops registry out onPair rest w₁ ((generateAll registry out onPair rest).run.run w₁) n
      tried) :
    Stops registry out onPair (pair :: rest) w
      ((generateAll registry out onPair (pair :: rest)).run.run w) (n + 1) (pair :: tried) := by
  rw [generateAll_cons_run hpair]
  generalize (generateAll registry out onPair rest).run.run w₁ = result at h
  cases h with
  | finished w' => exact .finished w'
  | failedAt n hn e w₂ w' before failure =>
    refine .failedAt (n + 1) (by simpa using hn) e w₂ w' ?_ failure
    rw [List.take_succ_cons, generateAll_cons_run hpair, before]
    rfl

/-- **The run through the pairs**: it stops at the first one that fails. -/
theorem generateAll_run (hobs : Observes onPair note) (h : w.disk.IsTree) (registry : Registry)
    (out : String) (pairs : List MappingPair) :
    ∃ n tried,
      Stops registry out onPair pairs w ((generateAll registry out onPair pairs).run.run w) n
        tried ∧
      Leaves registry out note tried n w
        ((generateAll registry out onPair pairs).run.run w).2 := by
  induction pairs generalizing w with
  | nil => exact ⟨0, [], .finished w, .nil (.refl h)⟩
  | cons pair rest ih =>
    obtain ⟨w₁, hedits, ⟨hholds, hpair⟩ | ⟨e, hpair⟩⟩ := generatePair_run h registry out onPair pair
    · have htree : ((onPair (pair.generatedIn out)).run w₁).2.disk.IsTree := by
        rw [hobs.disk]
        exact hedits.tree
      obtain ⟨n, tried, hstops, hleaves⟩ := ih htree
      refine ⟨n + 1, pair :: tried, hstops.cons hpair, .cons hobs hedits hholds ?_⟩
      rw [generateAll_cons_run hpair]
      exact hleaves
    · have hrun : (generateAll registry out onPair (pair :: rest)).run.run w = (.error e, w₁) := by
        rw [generateAll, Attempt.run_bind_error hpair]
      rw [hrun]
      exact ⟨0, [pair], .failedAt 0 (by simp) e w w₁ rfl hpair, .failed hedits⟩

end Run

/-! ### The whole run -/

section Generate

variable {registry : Registry} {pairs tried : List MappingPair} {out : String}
  {onPair : GeneratedPair → Program Unit}
  {note : List GeneratedPair × String → GeneratedPair → List GeneratedPair × String} {w : World}
  {result : Except GenError Summary × World} {n : Nat}

/-- **How a run ends** after `n` pairs, those attempted being given. -/
inductive Ends (registry : Registry) (pairs : List MappingPair) (out : String)
    (onPair : GeneratedPair → Program Unit) (w : World) :
    (result : Except GenError Summary × World) → (n : Nat) → (tried : List MappingPair) → Prop
  /-- Every pair succeeds. -/
  | finished (w' : World) : Ends registry pairs out onPair w
      (.ok ⟨out, pairs.map (·.generatedIn out)⟩, w') pairs.length pairs
  /-- The output directory cannot be made, and no pair is attempted. -/
  | noDirectory (cause : DiskError) (w' : World)
      (failure : (createDirs out).run.run w = (.error cause, w')) :
      Ends registry pairs out onPair w (.error (.io out cause), w') 0 []
  /-- A pair fails where the run through those before it has ended. -/
  | failedAt (n : Nat) (hn : n < pairs.length) (e : GenError) (w₁ w' : World)
      (before : (generate registry (pairs.take n) out onPair).run.run w =
        (.ok ⟨out, (pairs.take n).map (·.generatedIn out)⟩, w₁))
      (failure : (generatePair registry out onPair pairs[n]).run.run w₁ = (.error e, w')) :
      Ends registry pairs out onPair w (.error e, w') n (pairs.take (n + 1))

/-- The pairs that are attempted are the first ones, and at most one more than succeed. -/
theorem Ends.tried_eq (h : Ends registry pairs out onPair w result n tried) :
    tried.take n = pairs.take n ∧ n ≤ pairs.length ∧ (0 < n → tried = pairs.take (n + 1)) := by
  cases h with
  | finished w' =>
    exact ⟨rfl, le_rfl, fun _ => (List.take_of_length_le (Nat.le_succ _)).symm⟩
  | noDirectory cause w' failure => exact ⟨by simp, Nat.zero_le _, fun hn => absurd hn (by simp)⟩
  | failedAt n hn e w₁ w' before failure =>
    refine ⟨?_, Nat.le_of_lt hn, fun _ => rfl⟩
    rw [List.take_take, Nat.min_eq_left (Nat.le_succ n)]

/-- Once the output directory is there, the run is the one through the pairs. -/
theorem generate_run_ok {w₁ : World} (hdirs : (createDirs out).run.run w = (.ok (), w₁))
    (pairs : List MappingPair) :
    (generate registry pairs out onPair).run.run w =
      (((generateAll registry out onPair pairs).run.run w₁).1.map (⟨out, ·⟩),
        ((generateAll registry out onPair pairs).run.run w₁).2) := by
  rw [generate, Attempt.run_bind_ok (Attempt.run_orFail_ok hdirs), Attempt.run_bind_pure]

theorem generate_run_error {w₁ : World} {cause : DiskError}
    (hdirs : (createDirs out).run.run w = (.error cause, w₁)) :
    (generate registry pairs out onPair).run.run w = (.error (.io out cause), w₁) := by
  rw [generate, Attempt.run_bind_error (Attempt.run_orFail_error hdirs)]

/-- **A run of the generator**, for any observer that leaves the disk alone. -/
theorem generate_run (hobs : Observes onPair note) (h : w.disk.IsTree) (registry : Registry)
    (pairs : List MappingPair) (out : String) :
    ∃ n tried, Ends registry pairs out onPair w ((generate registry pairs out onPair).run.run w) n
        tried ∧
      Leaves registry out note tried n w ((generate registry pairs out onPair).run.run w).2 := by
  have hmade := createDirs_run h out
  rcases hdirs : (createDirs out).run.run w with ⟨cause | u, w₁⟩
  · rw [hdirs] at hmade
    rw [generate_run_error hdirs]
    exact ⟨0, [], .noDirectory cause w₁ hdirs, .nil hmade.edits⟩
  · rw [hdirs] at hmade
    have hfirst := hmade.edits
    -- how the run through the pairs stops is how the whole run ends
    obtain ⟨n, tried, hstops, hleaves⟩ := generateAll_run hobs hfirst.tree registry out pairs
    have hleaves' : Leaves registry out note tried n w _ := hleaves.after hfirst
    rw [generate_run_ok hdirs]
    generalize (generateAll registry out onPair pairs).run.run w₁ = result at hstops hleaves'
    refine ⟨n, tried, ?_⟩
    cases hstops with
    | finished w' => exact ⟨.finished w', hleaves'⟩
    | failedAt n hn e w₂ w' before failure =>
      refine ⟨.failedAt n hn e w₂ w' ?_ failure, hleaves'⟩
      rw [generate_run_ok hdirs, before]
      rfl

/-- The output directory is there after a successful run, unless its path is empty. -/
theorem isDirectory_of_generate_ok {w' : World} {summary : Summary} (hobs : Observes onPair note)
    (h : w.disk.IsTree) (hne : out ≠ "")
    (hrun : (generate registry pairs out onPair).run.run w = (.ok summary, w')) :
    w'.disk.isDirectory w'.cwd out = true := by
  have hmade := createDirs_run h out
  rcases hdirs : (createDirs out).run.run w with ⟨cause | u, w₁⟩
  · rw [generate_run_error hdirs] at hrun
    cases hrun
  · rw [hdirs] at hmade
    rw [generate_run_ok hdirs] at hrun
    -- the directory is there before the first pair, and directories stay
    obtain ⟨hcheck, hopen, hget⟩ := hmade.edits.tree.isDirectory_iff.mp (hmade.isDirectory rfl hne)
    obtain ⟨_, _, -, hall⟩ := generateAll_run hobs hmade.edits.tree registry out pairs
    rw [show ((generateAll registry out onPair pairs).run.run w₁).2 = w' from
      congrArg Prod.snd hrun] at hall
    have hkeep := hall.disk.keepsDirectories
    rw [hall.disk.tree.isDirectory_iff, hall.cwd]
    exact ⟨hcheck, hopen.mono hkeep, hkeep _ hget⟩

/-- **What a successful run leaves behind**: all that belongs to its pairs. -/
theorem of_generate_ok {w' : World} {summary : Summary} (hobs : Observes onPair note)
    (h : w.disk.IsTree)
    (hrun : (generate registry pairs out onPair).run.run w = (.ok summary, w')) :
    summary = ⟨out, pairs.map (·.generatedIn out)⟩ ∧
      Leaves registry out note pairs pairs.length w w' := by
  obtain ⟨n, tried, hends, hleaves⟩ := generate_run hobs h registry pairs out
  rw [hrun] at hends hleaves
  cases hends with
  | finished => exact ⟨rfl, hleaves⟩

/-- **Where a run leaves everything**, success or not. The observer is told of the first `n` pairs
in order; what belongs to each is there, unless a later pair with the same directory name has been
attempted; and nothing has changed but at the places of the pairs attempted. -/
theorem generate_announces {result : Except GenError Summary} {w' : World} (h : w.disk.IsTree)
    (hrun : (generate registry pairs out announce).run.run w = (result, w')) :
    ∃ n tried, n ≤ pairs.length ∧ Ends registry pairs out announce w (result, w') n tried ∧
      w'.announced = w.announced ++ (pairs.take n).map (·.generatedIn out) ∧
      (∀ i (hi : i < pairs.length), i < n →
        (∀ j (hj : j < pairs.length), i < j → j ≤ n → pairs[j].dirName ≠ pairs[i].dirName) →
        w'.Holds (Path.join out pairs[i].dirName) (renderPair registry pairs[i])) ∧
      w.disk.Changes (directoriesOf w.cwd out tried) (filesOf w.cwd out tried) w'.disk := by
  obtain ⟨n, tried, hends, hleaves⟩ := generate_run observes_announce h registry pairs out
  rw [hrun] at hends hleaves
  obtain ⟨hdone, hle, htried⟩ := hends.tried_eq
  refine ⟨n, tried, hle, hends, ?_, fun i hi hn hother => ?_, hleaves.disk⟩
  · have hseen := hleaves.seen
    rw [foldl_announce, hdone] at hseen
    exact congrArg Prod.fst hseen
  · have hpairs := htried (Nat.zero_lt_of_lt hn)
    subst hpairs
    -- the pairs attempted have the positions up to `n` that there are
    have hi' : i < (pairs.take (n + 1)).length := by
      rw [List.length_take]
      omega
    have hholds := hleaves.holds i hi' hn fun j hj hlt => by
      rw [List.length_take] at hj
      rw [List.getElem_take, List.getElem_take]
      exact hother j (by omega) hlt (by omega)
    rw [List.getElem_take] at hholds
    exact hholds

/-- A file stands where the directory of the second of three pairs should be. -/
theorem generate_announces_blocked : ∃ disk : Disk, disk.IsTree ∧
    disk.get? ["work", "out", "C_to_D"] = some (.file .empty) ∧
    ∃ result w' n tried, w'.announced = [⟨"A", "B", "out/A_to_B"⟩] ∧
      Ends .empty [⟨"A", "B"⟩, ⟨"C", "D"⟩, ⟨"E", "F"⟩] "out" announce (.start disk ["work"])
        (result, w') n tried ∧
      disk.Changes (directoriesOf ["work"] "out" tried) (filesOf ["work"] "out" tried) w'.disk := by
  have htree : (⟨[(["work"], .directory), (["work", "out"], .directory),
      (["work", "out", "C_to_D"], .file .empty)]⟩ : Disk).IsTree := by decide +kernel
  have hcalls : ((generate .empty [⟨"A", "B"⟩, ⟨"C", "D"⟩, ⟨"E", "F"⟩] "out" announce).run.run
      (.start ⟨[(["work"], .directory), (["work", "out"], .directory),
        (["work", "out", "C_to_D"], .file .empty)]⟩ ["work"])).2.announced =
      [⟨"A", "B", "out/A_to_B"⟩] := by decide +kernel
  rcases hrun : (generate .empty [⟨"A", "B"⟩, ⟨"C", "D"⟩, ⟨"E", "F"⟩] "out" announce).run.run
    (.start ⟨[(["work"], .directory), (["work", "out"], .directory),
      (["work", "out", "C_to_D"], .file .empty)]⟩ ["work"]) with ⟨result, w'⟩
  rw [hrun] at hcalls
  obtain ⟨n, tried, -, hends, -, -, hdisk⟩ := generate_announces htree hrun
  exact ⟨_, htree, rfl, result, w', n, tried, hcalls, hends, hdisk⟩

end Generate

end TwinTypes
