import Mathlib.Data.Set.Basic
import TwinTypes.Proofs.Disk.Walk

/-!
# What the operations change on a tree

Every operation of a writing program does one of two things to a tree: it makes a directory where
nothing stood, or it puts a file where no directory stood. `TwinTypes.Disk.Changes` bounds the
locations at which it may do so, and is closed under doing one thing after another; since
directories stay (`Changes.keepsDirectories`), a path that could be followed before can be followed
after.

A file is written whole in three operations – create another file, fill it, rename it – and what is
settled here is their effect together: a file that was just created can always be filled
(`exists_appendFile`), and renaming it either fails and leaves the disk, or moves the bytes to the
place of the target (`of_renameFile`). If it fails the created file can always be taken away
again, and the disk is as it was (`exists_removeFile`).
-/

namespace TwinTypes.Disk

/-! ### Bounded changes -/

/-- **A change within bounds**: it leaves a tree, and everything as it was, but for directories made
at some places where nothing stood and files put at some places where no directory stood. -/
structure Changes (dirs files : Set Location) (d d' : Disk) : Prop where
  /-- It leaves a tree. -/
  tree : d'.IsTree
  /-- What it does to a location. -/
  cases : ∀ loc, d'.get? loc = d.get? loc ∨
    (loc ∈ dirs ∧ d.get? loc = none ∧ d'.get? loc = some .directory) ∨
    (loc ∈ files ∧ d.get? loc ≠ some .directory ∧ ∃ bytes, d'.get? loc = some (.file bytes))

namespace Changes

variable {dirs files : Set Location} {d d' d'' : Disk}

theorem refl (h : d.IsTree) : d.Changes dirs files d :=
  ⟨h, fun _ => Or.inl rfl⟩

theorem mono {dirs' files' : Set Location} (h : d.Changes dirs files d') (hdirs : dirs ⊆ dirs')
    (hfiles : files ⊆ files') : d.Changes dirs' files' d' where
  tree := h.tree
  cases loc := (h.cases loc).imp_right fun hc =>
    hc.imp (And.imp_left fun hl => hdirs hl) (And.imp_left fun hl => hfiles hl)

/-- **Directories stay.** -/
theorem keepsDirectories (h : d.Changes dirs files d') : d.KeepsDirectories d' := by
  intro loc hdir
  rcases h.cases loc with hc | ⟨-, hnone, -⟩ | ⟨-, hne, -⟩
  · rw [hc, hdir]
  · rw [hdir] at hnone
    cases hnone
  · exact absurd hdir hne

theorem trans (h : d.Changes dirs files d') (h' : d'.Changes dirs files d'') :
    d.Changes dirs files d'' where
  tree := h'.tree
  cases loc := by
    rcases h'.cases loc with hc | ⟨hl, hnone, hdir⟩ | ⟨hl, hne, bytes, hfile⟩
    · rw [hc]
      exact h.cases loc
    · rcases h.cases loc with hc' | ⟨-, -, hdir'⟩ | ⟨-, -, bytes, hfile⟩
      · exact Or.inr (Or.inl ⟨hl, hc' ▸ hnone, hdir⟩)
      · rw [hdir'] at hnone
        cases hnone
      · rw [hfile] at hnone
        cases hnone
    · exact Or.inr (Or.inr ⟨hl, fun hdir => hne (h.keepsDirectories loc hdir), bytes, hfile⟩)

/-- **What is outside the bounds stays.** -/
theorem get?_eq_of_notMem (h : d.Changes dirs files d') {loc : Location} (hdirs : loc ∉ dirs)
    (hfiles : loc ∉ files) : d'.get? loc = d.get? loc := by
  rcases h.cases loc with hc | ⟨hl, -, -⟩ | ⟨hl, -, -⟩
  · exact hc
  · exact absurd hl hdirs
  · exact absurd hl hfiles

/-- **A file outside the bounds stays**, with its bytes. -/
theorem get?_file (h : d.Changes dirs files d') {loc : Location} {bytes : ByteArray}
    (hfile : d.get? loc = some (.file bytes)) (hloc : loc ∉ files) :
    d'.get? loc = some (.file bytes) := by
  rcases h.cases loc with hc | ⟨-, hnone, -⟩ | ⟨hl, -, -⟩
  · rw [hc, hfile]
  · rw [hfile] at hnone
    cases hnone
  · exact absurd hl hloc

/-- What can be read outside the bounds can be read after the change, and is the same. -/
theorem readFile (h : d.Changes dirs files d') (ht : d.IsTree) {cwd : Location} {path : String}
    {bytes : ByteArray} (hread : d.readFile cwd path = .ok bytes)
    (hloc : placeOf cwd path ∉ files) : d'.readFile cwd path = .ok bytes := by
  obtain ⟨hcheck, hopen, hfile⟩ := ht.readFile_eq_ok_iff.mp hread
  exact h.tree.readFile_eq_ok_iff.mpr
    ⟨hcheck, hopen.mono h.keepsDirectories, h.get?_file hfile hloc⟩

end Changes

/-- Putting something where no directory stood changes that place alone. -/
theorem changes_put {d : Disk} (h : d.IsTree) {loc : Location} (hplace : d.IsPlace loc)
    (hdir : d.get? loc ≠ some .directory) (bytes : ByteArray) :
    d.Changes ∅ {loc} (d.put loc (.file bytes)) where
  tree := h.put hplace rfl fun hc => absurd hc hdir
  cases other := by
    rw [get?_put d hplace.1]
    split
    · rename_i heq
      exact Or.inr (Or.inr ⟨heq, heq ▸ hdir, bytes, rfl⟩)
    · exact Or.inl rfl

/-- The disk on which a file of its own holds some bytes, and is otherwise like another disk. -/
structure Filled (d d₂ : Disk) (cwd : Location) (temp : String) (bytes : ByteArray) : Prop where
  /-- It is a tree. -/
  tree : d₂.IsTree
  /-- Nothing stood at the place of the file. -/
  vacant : d.get? (placeOf cwd temp) = none
  /-- The path names the file. -/
  resolve : d₂.resolve cwd false temp = .ok (.found (placeOf cwd temp) (.file bytes))
  /-- Everything else is as on the other disk. -/
  get? : ∀ loc, d₂.get? loc = if loc = placeOf cwd temp then some (.file bytes) else d.get? loc

namespace IsTree

variable {d d' : Disk} {cwd : Location} {path temp : String} {bytes : ByteArray}

/-! ### Directories -/

/-- **Making a directory** changes the place that the path denotes. -/
theorem of_makeDir (h : d.IsTree) (hm : d.makeDir cwd path = .ok d') :
    bareSteps path ≠ [] ∧ d.Changes {placeOf cwd path} ∅ d' ∧
      d'.isDirectory cwd path = true := by
  unfold makeDir at hm
  split at hm
  · rename_i loc hr
    cases hm
    obtain ⟨hcheck, hne, hopen, ht⟩ := h.of_resolveBare hr
    obtain ⟨rfl, hnone⟩ := targetAt_eq_vacant.mp ht
    have hplace := h.isPlace_placeOf hcheck hopen hnone
    -- a directory where nothing stood hides nothing
    have hget := get?_put d hplace.1 .directory
    have hchanges : d.Changes {placeOf cwd path} ∅ (d.put (placeOf cwd path) .directory) := by
      refine ⟨h.put hplace rfl fun _ => rfl, fun other => ?_⟩
      rw [hget]
      split
      · rename_i heq
        exact Or.inr (Or.inl ⟨heq, heq ▸ hnone, rfl⟩)
      · exact Or.inl rfl
    refine ⟨hne, hchanges, hchanges.tree.isDirectory_iff.mpr
      ⟨hcheck, hopen.mono hchanges.keepsDirectories, ?_⟩⟩
    rw [hget, if_pos rfl]
  · cases hm
  · cases hm

/-! ### Files -/

/-- **Creating a file** puts one at the vacant place that the path denotes. -/
theorem of_createFile (h : d.IsTree) (hc : d.createFile cwd temp = .ok d') :
    checkPath temp = .ok () ∧ d.Open (origin cwd temp) (steps temp) ∧
      d.get? (placeOf cwd temp) = none ∧ d.IsPlace (placeOf cwd temp) ∧
      d' = d.put (placeOf cwd temp) (.file .empty) := by
  unfold createFile at hc
  split at hc
  · rename_i loc hr
    cases hc
    obtain ⟨hcheck, hopen, ht⟩ := h.resolve_eq_ok_iff.mp hr
    obtain ⟨rfl, hnone⟩ := targetAt_eq_vacant.mp ht
    exact ⟨hcheck, hopen, hnone, h.isPlace_placeOf hcheck (open_steps.mp hopen).1 hnone, rfl⟩
  · cases hc
  · cases hc

/-- **A file that was just created can be filled.** -/
theorem exists_appendFile (h : d.IsTree) (hc : d.createFile cwd temp = .ok d') (bytes : ByteArray) :
    ∃ d₂, d'.appendFile cwd temp bytes = .ok d₂ ∧ Filled d d₂ cwd temp bytes := by
  obtain ⟨hcheck, hopen, hnone, hplace, rfl⟩ := h.of_createFile hc
  have hne : d.get? (placeOf cwd temp) ≠ some .directory := by simp [hnone]
  have hcreated := changes_put h hplace hne .empty
  have hget := get?_put d hplace.1 (.file .empty)
  have hempty := hcreated.tree.resolve_eq_found false hcheck
    (hopen.mono hcreated.keepsDirectories) (by rw [hget, if_pos rfl])
  have hplace' : (d.put (placeOf cwd temp) (.file .empty)).IsPlace (placeOf cwd temp) :=
    hcreated.tree.isPlace hplace.1 (by rw [hget, if_pos rfl])
  have hfilled := changes_put hcreated.tree hplace' (by rw [hget, if_pos rfl]; simp) bytes
  have hget₂ := get?_put (d.put (placeOf cwd temp) (.file .empty)) hplace.1 (.file bytes)
  refine ⟨(d.put (placeOf cwd temp) (.file .empty)).put (placeOf cwd temp) (.file bytes), ?_,
    hfilled.tree, hnone, ?_, fun loc => ?_⟩
  · rw [appendFile, hempty]
    simp
  · exact hfilled.tree.resolve_eq_found false hcheck
      ((hopen.mono hcreated.keepsDirectories).mono hfilled.keepsDirectories)
      (by rw [hget₂, if_pos rfl])
  · rw [hget₂, hget]
    split <;> rfl

end IsTree

namespace Filled

variable {d d₂ d₃ : Disk} {cwd : Location} {path temp : String} {bytes : ByteArray}

theorem get?_temp (hf : Filled d d₂ cwd temp bytes) :
    d₂.get? (placeOf cwd temp) = some (.file bytes) := by
  rw [hf.get?, if_pos rfl]

theorem temp_ne_nil (hf : Filled d d₂ cwd temp bytes) : placeOf cwd temp ≠ [] := by
  intro hnil
  have hvacant := hf.vacant
  rw [hnil] at hvacant
  cases hvacant

/-- What the disk without the file holds. -/
theorem get?_erase_temp (hf : Filled d d₂ cwd temp bytes) (loc : Location) :
    (d₂.erase (placeOf cwd temp)).get? loc = d.get? loc := by
  rw [get?_erase d₂ hf.temp_ne_nil]
  split
  · rename_i heq
    rw [heq, hf.vacant]
  · rename_i hne
    rw [hf.get?, if_neg hne]

theorem isTree_erase_temp (hf : Filled d d₂ cwd temp bytes) :
    (d₂.erase (placeOf cwd temp)).IsTree :=
  hf.tree.erase hf.temp_ne_nil (by rw [hf.get?_temp]; simp)

/-- **The file can be taken away again**, and then nothing has changed. -/
theorem exists_removeFile (hf : Filled d d₂ cwd temp bytes) :
    ∃ d₃, d₂.removeFile cwd temp = .ok d₃ ∧ ∀ dirs files, d.Changes dirs files d₃ := by
  refine ⟨d₂.erase (placeOf cwd temp), ?_, fun dirs files =>
    ⟨hf.isTree_erase_temp, fun loc => Or.inl (hf.get?_erase_temp loc)⟩⟩
  rw [removeFile, hf.resolve]

/-- What renaming the file comes down to if it succeeds. -/
theorem eq_of_renameFile (hf : Filled d d₂ cwd temp bytes)
    (hr : d₂.renameFile cwd temp path = .ok d₃) :
    checkPath path = .ok () ∧ asksForDirectory path = false ∧
      d₂.Open (origin cwd path) (bareSteps path) ∧ d₂.IsPlace (placeOf cwd path) ∧
      d₂.get? (placeOf cwd path) ≠ some .directory ∧
      d₃ = (d₂.erase (placeOf cwd temp)).put (placeOf cwd path) (.file bytes) := by
  unfold renameFile at hr
  rw [hf.resolve] at hr
  simp only [bind, Except.bind] at hr
  split at hr
  · cases hr
  · rename_i goal hgoal
    obtain ⟨hcheck, -, hopen, ht⟩ := hf.tree.of_resolveBare hgoal
    split at hr
    · cases hr
    · rename_i hasks
      refine ⟨hcheck, by simpa using hasks, hopen, ?_⟩
      split at hr
      · cases hr
      · rename_i loc entry hentry
        obtain ⟨rfl, hget⟩ := targetAt_eq_found.mp ht
        cases hr
        have hdir : d₂.get? (placeOf cwd path) ≠ some .directory := by
          rw [hget]
          simpa using hentry
        -- the root is a directory, so it cannot be what is replaced
        refine ⟨hf.tree.isPlace (fun hnil => hdir ?_) hget, hdir, rfl⟩
        rw [hnil, get?_root]
      · rename_i loc
        obtain ⟨rfl, hnone⟩ := targetAt_eq_vacant.mp ht
        cases hr
        exact ⟨hf.tree.isPlace_placeOf hcheck hopen hnone, by simp [hnone], rfl⟩

/-- **Renaming the file** moves its bytes to the place that the target denotes, where they can be
read. -/
theorem of_renameFile (hf : Filled d d₂ cwd temp bytes)
    (hr : d₂.renameFile cwd temp path = .ok d₃) :
    d.Changes ∅ {placeOf cwd path} d₃ ∧ d₃.readFile cwd path = .ok bytes := by
  obtain ⟨hcheck, hasks, hopen, hplace, hdir, rfl⟩ := hf.eq_of_renameFile hr
  have htemp : d₂.get? (placeOf cwd temp) ≠ some .directory := by
    rw [hf.get?_temp]
    simp
  have hdir' : d.get? (placeOf cwd path) ≠ some .directory := by
    rw [← hf.get?_erase_temp, get?_erase d₂ hf.temp_ne_nil]
    split
    · simp
    · exact hdir
  -- the directory of the target is still there without the file
  have hplace' : (d₂.erase (placeOf cwd temp)).IsPlace (placeOf cwd path) := by
    refine ⟨hplace.1, hplace.2.1, ?_⟩
    rw [get?_erase d₂ hf.temp_ne_nil, if_neg]
    · exact hplace.2.2
    · intro heq
      exact htemp (heq ▸ hplace.2.2)
  have hput := changes_put hf.isTree_erase_temp hplace'
    (by rw [hf.get?_erase_temp]; exact hdir') bytes
  have hchanges : d.Changes ∅ {placeOf cwd path}
      ((d₂.erase (placeOf cwd temp)).put (placeOf cwd path) (.file bytes)) :=
    (⟨hf.isTree_erase_temp, fun loc => Or.inl (hf.get?_erase_temp loc)⟩ :
      d.Changes ∅ {placeOf cwd path} (d₂.erase (placeOf cwd temp))).trans hput
  refine ⟨hchanges, hchanges.tree.readFile_eq_ok_iff.mpr ⟨hcheck, ?_, ?_⟩⟩
  · refine open_steps.mpr
      ⟨(hopen.mono fun loc hl => ?_).mono hput.keepsDirectories, fun hslash => ?_⟩
    · rw [get?_erase d₂ hf.temp_ne_nil, if_neg]
      · exact hl
      · intro heq
        exact htemp (heq ▸ hl)
    · simp [asksForDirectory, hslash.1] at hasks
  · rw [get?_put _ hplace.1, if_pos rfl]

end Filled

end TwinTypes.Disk
