import TwinTypes.Proofs.Disk.Parents
import TwinTypes.Proofs.Disk.Success

/-!
# Where a file written whole lands

A file is written whole by way of another file beside it, and what comes of it must not depend on
that other file. `TwinTypes.Disk.Filled.renameFile_eq` says so: moving the file to the path succeeds
or fails as `TwinTypes.Disk.replace` says, which speaks of the disk without the other file alone.

The reason is that following the path does not come by the other file. All places on the way are
directories, or the place that the path denotes, which has another name
(`get?_of_prefix_fileName`); and following names on a tree and on a disk that agrees with it on the
way gives the same (`IsTree.walk_congr`).
-/

namespace TwinTypes.Disk

open TwinTypes.Path (fileName isSolid)

variable {d d' d₂ : Disk} {cwd : Location} {path temp : String} {bytes : ByteArray}

/-! ### Disks that agree on the way -/

/-- **What is followed on a tree** depends on the places on the way alone. -/
theorem IsTree.walkNames_congr (h : d.IsTree) {follow : Bool}
    {jump jump' : Location → List String → Except DiskError Target} {here : Location}
    {names : List String}
    (hsame : ∀ first, first <+: names → d'.get? (place here first) = d.get? (place here first)) :
    d'.walkNames follow jump' here names = d.walkNames follow jump here names := by
  induction names generalizing here with
  | nil =>
    have hhere : d'.get? here = d.get? here := hsame [] List.nil_prefix
    rw [walkNames, walkNames, hhere]
  | cons name rest ih =>
    have hhere : d'.get? here = d.get? here := hsame [] List.nil_prefix
    have hrest : d'.walkNames follow jump' (move here name) rest =
        d.walkNames follow jump (move here name) rest := by
      refine ih fun first hfirst => ?_
      rw [← place_cons]
      exact hsame _ (List.cons_prefix_cons.mpr ⟨rfl, hfirst⟩)
    have hnext : d'.get? (move here name) = d.get? (move here name) :=
      hsame [name] (List.cons_prefix_cons.mpr ⟨rfl, List.nil_prefix⟩)
    rw [walkNames, walkNames, hhere]
    unfold move at hrest hnext
    split
    · rfl
    · split
      · rename_i hdot
        rwa [if_pos hdot] at hrest
      · rename_i hdot
        rw [if_neg hdot] at hrest hnext
        split
        · rename_i hup
          rwa [if_pos hup] at hrest
        · rename_i hup
          rw [if_neg hup] at hrest hnext
          rw [hnext, hrest]
          -- there is no link to follow
          cases hget : d.get? (here ++ [name]) with
          | none => rfl
          | some entry =>
            cases entry with
            | link target => exact absurd hget (h.get?_ne_link _ _)
            | directory => rfl
            | file bytes => rfl

theorem IsTree.walk_congr (h : d.IsTree) {follow : Bool} {links : Nat}
    {here : Location} {names : List String}
    (hsame : ∀ first, first <+: names → d'.get? (place here first) = d.get? (place here first)) :
    d'.walk follow links here names = d.walk follow links here names := by
  cases links <;> exact h.walkNames_congr hsame

theorem IsTree.resolveBare_congr (h : d.IsTree) {dots : DiskError}
    (hsame : ∀ first, first <+: bareSteps path →
      d'.get? (place (origin cwd path) first) = d.get? (place (origin cwd path) first)) :
    d'.resolveBare cwd dots path = d.resolveBare cwd dots path := by
  have hinit : ∀ first, first <+: (bareSteps path).dropLast →
      d'.get? (place (origin cwd path) first) = d.get? (place (origin cwd path) first) :=
    fun first hfirst => hsame first (hfirst.trans (List.dropLast_prefix _))
  unfold resolveBare
  dsimp only
  rw [h.walk_congr hsame, h.walk_congr hinit]

/-! ### The way to a file -/

/-- **The places on the way to a file** in a directory that is there are directories, or the place
of the file. -/
theorem get?_of_prefix_fileName {name : String} (hname : fileName path = some name)
    (hreach : d.Reaches cwd (parentDir path)) {first : List String}
    (hfirst : first <+: bareSteps path) :
    d.get? (place (origin cwd path) first) = some .directory ∨
      place (origin cwd path) first = placeOf cwd path := by
  obtain ⟨hnames, horigin⟩ := filter_bareSteps_fileName hname
  have hplace : ∀ {p first}, first <+: bareSteps p →
      place (origin cwd path) (first.filter isSolid) = place (origin cwd path) first :=
    fun {_ _} hp => Path.place_filter_isSolid
      (fun _ hmem => Path.ne_empty_of_mem_bareSteps (hp.subset hmem)) _
  have hsolid := hfirst.filter isSolid
  rw [hnames, List.prefix_concat_iff, ← hnames] at hsolid
  rcases hsolid with heq | hinit
  · right
    rw [← hplace hfirst, heq, hplace (List.prefix_refl _), placeOf]
  · left
    obtain ⟨before, hbefore, heq⟩ := List.prefix_filter_iff.mp hinit
    have hopen := hreach.opens
    have hget := hreach.get?
    rw [placeOf] at hget
    rw [horigin] at hopen hget
    rw [← hplace hfirst, heq, hplace hbefore]
    exact hopen.get?_of_prefix hget hbefore

/-! ### Moving a file to its place -/

/-- **The disk with some bytes at a path**, or why they cannot be put there. -/
def replace (d : Disk) (cwd : Location) (path : String) (bytes : ByteArray) :
    Except DiskError Disk :=
  match d.resolveBare cwd .busy path with
  | .error e => .error e
  | .ok goal =>
    if asksForDirectory path then .error .notDirectory
    else
      match goal with
      | .found _ .directory => .error .isDirectory
      | .found loc _ => .ok (d.put loc (.file bytes))
      | .vacant loc => .ok (d.put loc (.file bytes))

/-- Bytes are put where no directory stands. -/
theorem IsTree.of_replace (h : d.IsTree) (hr : d.replace cwd path bytes = .ok d') :
    d.Changes ∅ {placeOf cwd path} d' := by
  unfold replace at hr
  split at hr
  · cases hr
  · rename_i goal hgoal
    obtain ⟨hcheck, -, hopen, ht⟩ := h.of_resolveBare hgoal
    split at hr
    · cases hr
    · split at hr
      · cases hr
      · rename_i loc entry hentry
        obtain ⟨rfl, hget⟩ := targetAt_eq_found.mp ht
        cases hr
        have hdir : d.get? (placeOf cwd path) ≠ some .directory := by
          rw [hget]
          simpa using hentry
        exact changes_put h (h.isPlace (fun hnil => hdir (by rw [hnil, get?_root])) hget) hdir bytes
      · rename_i loc
        obtain ⟨rfl, hnone⟩ := targetAt_eq_vacant.mp ht
        cases hr
        exact changes_put h (h.isPlace_placeOf hcheck hopen hnone) (by simp [hnone]) bytes

namespace Filled

/-- **Without the file the disk is what it was.** -/
theorem erase_temp (hf : Filled d d₂ cwd temp bytes) (h : d.IsTree) :
    d₂.erase (placeOf cwd temp) = d :=
  hf.isTree_erase_temp.ext_get? h hf.get?_erase_temp

/-- **Moving a file from beside its place** does not depend on where it was. -/
theorem renameFile_eq (hf : Filled d d₂ cwd temp bytes) (h : d.IsTree) {name tempName : String}
    (hname : fileName path = some name) (hreach : d.Reaches cwd (parentDir path))
    (htemp : placeOf cwd temp = placeOf cwd (parentDir path) ++ [tempName])
    (hne : tempName ≠ name) :
    d₂.renameFile cwd temp path = d.replace cwd path bytes := by
  have hsame : ∀ first, first <+: bareSteps path →
      d₂.get? (place (origin cwd path) first) = d.get? (place (origin cwd path) first) := by
    intro first hfirst
    rw [hf.get?, if_neg]
    intro heq
    rcases get?_of_prefix_fileName hname hreach hfirst with hdir | hplace
    · rw [heq, hf.vacant] at hdir
      cases hdir
    · rw [hplace, htemp, placeOf_fileName hname] at heq
      exact hne (by simpa using heq.symm)
  rw [renameFile, hf.resolve, h.resolveBare_congr hsame, replace]
  simp only [bind, Except.bind, hf.erase_temp h]
  cases d.resolveBare cwd .busy path <;> rfl

theorem removeFile_eq (hf : Filled d d₂ cwd temp bytes) (h : d.IsTree) :
    d₂.removeFile cwd temp = .ok d := by
  rw [removeFile, hf.resolve, ← hf.erase_temp h]

end Filled

end TwinTypes.Disk
