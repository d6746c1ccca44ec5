import TwinTypes.Proofs.Disk.Passing
import TwinTypes.Proofs.Run.Succeeding

/-!
# When directories can be made

Making a directory succeeds exactly if it is there in the end (`TwinTypes.createDirs_eq_ok_iff`), an
empty path apart, for which there is nothing to make. So whoever looks at the disk afterwards knows
how it went: a directory that is there is on no account a failure, and none of the directories that
lead to it is one either.

Before it is made one can tell only of paths with nothing to leave out at the end. The directory of
a path is such a one (`TwinTypes.parentDir_cases`), and it is made if it is passable
(`TwinTypes.createDirs_parentDir`). It is not so of `a/.`, where the dot cannot be made before `a`
is there, and the path before `a/.` is the empty one.
-/

namespace TwinTypes

open Disk (bareSteps onTheWay origin place placeOf)

/-! ### Directories that can be made -/

/-- **A path with nothing to leave out** is put together of its pieces, and so are the paths that
lead to it. -/
theorem Path.ancestors_eq {path : String} (h : reversedPieces path = (pieces path).reverse) :
    ancestors path =
      ancestorsOf (isAbsolute path) ((pieces path).length + 1) (reversedPieces path) := by
  obtain ⟨last, before, hback⟩ :=
    List.exists_cons_of_ne_nil (l := (pieces path).reverse) (by
      rw [ne_eq, List.reverse_eq_nil_iff, pieces_eq, List.map_eq_nil_iff]
      exact List.splitOn_ne_nil '/' path.toList)
  have hpath : ofReversed (isAbsolute path) (last :: before) = path := by
    rw [ofReversed_of_ne_nil _ (by simp), ← hback, List.reverse_reverse, intercalate_pieces]
  have hlength : (pieces path).length = before.length + 1 := by
    rw [← List.length_reverse, hback, List.length_cons]
  rw [ancestors, h, hback, hlength, ancestorsOf, hpath]

theorem Path.exists_ancestorsOf_succ (absolute : Bool) (fuel : Nat) (xs : List String) :
    ∃ rest, ancestorsOf absolute (fuel + 1) xs = ofReversed absolute xs :: rest := by
  cases xs <;> exact ⟨_, rfl⟩

/-- **The directory of a path** is a dot, or is put together of some of its first pieces. -/
theorem parentDir_eq (path : String) : parentDir path = "." ∨ ∃ ys,
    ys <:+ (Path.pieces path).reverse ∧ Path.dropIdle ys = ys ∧ parentDir path ≠ "" ∧
      parentDir path = Path.ofReversed (Path.isAbsolute path) ys := by
  unfold parentDir
  split
  · rename_i parent hparent
    split
    · exact Or.inl rfl
    · rename_i hne
      unfold Path.parent at hparent
      split at hparent
      · cases hparent
      · rename_i last before hback
        cases hparent
        refine Or.inr ⟨Path.dropIdle before, ?_, Path.dropIdle_dropIdle before,
          fun hc => hne (by simp [hc]), rfl⟩
        exact Path.dropIdle_suffix_of_cons (hback ▸ Path.reversedPieces_suffix path)
  · exact Or.inl rfl

/-- The directory of a path is not the empty path. -/
theorem parentDir_ne_empty (path : String) : parentDir path ≠ "" := by
  rcases parentDir_eq path with hdot | ⟨ys, -, -, hne, -⟩
  · rw [hdot]
    decide
  · exact hne

/-- **The directory of a path** has nothing to leave out, unless it is the root. -/
theorem parentDir_cases (path : String) :
    parentDir path = "/" ∨
      Path.reversedPieces (parentDir path) = (Path.pieces (parentDir path)).reverse := by
  rcases parentDir_eq path with hdot | ⟨ys, hys, htrim, hne, hparent⟩
  · rw [hdot]
    exact Or.inr (by decide)
  · rw [hparent] at hne ⊢
    cases ys with
    | nil =>
      left
      rw [Path.ofReversed] at hne ⊢
      split at hne
      · rename_i habs
        rw [if_pos habs]
      · exact absurd rfl hne
    | cons y before =>
      right
      rw [Path.reversedPieces, Path.pieces_ofReversed _ (by simp) (Path.slash_notMem_of_suffix hys),
        List.reverse_reverse, htrim]

section Directories

variable {w : World} {path : String} {rest : List String}

/-- A directory at a path where nothing is missing is made, or is there. -/
theorem makeDir_or_isDirectory (ht : w.disk.IsTree) (h : w.disk.Passable w.cwd path)
    (hopen : w.disk.Open (origin w.cwd path) (bareSteps path)) : ∃ w', ((do
      match ← Attempt.always (makeDir path) with
      | .ok _ => pure ()
      | .error e => unlessDirectory path e : Attempt DiskError Unit).run.run w) = (.ok (), w') := by
  rw [Attempt.run_always_bind, run_makeDir]
  rcases ht.makeDir_of_passable h with ⟨d, hmake⟩ | ⟨hmake, hdir⟩ | ⟨-, hnot⟩
  · rw [hmake]
    exact ⟨_, rfl⟩
  · simp only [hmake, World.change]
    rw [run_unlessDirectory, if_pos hdir]
    exact ⟨_, rfl⟩
  · exact absurd hopen hnot

/-- **The directory at the front is made**, if nothing is missing once the others have been made. -/
theorem createDirsAlong_cons (ht : w.disk.IsTree) (h : w.disk.Passable w.cwd path)
    (hrest : ¬w.disk.Open (origin w.cwd path) (bareSteps path) → ∃ w₁,
      (createDirsAlong rest).run.run w = (.ok (), w₁) ∧ w₁.disk.IsTree ∧
        w₁.disk.Passable w₁.cwd path ∧ w₁.disk.Open (origin w₁.cwd path) (bareSteps path)) :
    ∃ w', (createDirsAlong (path :: rest)).run.run w = (.ok (), w') := by
  have hne := (Disk.of_checkPath h.check).2.1
  rw [createDirsAlong, if_neg (by simpa using hne), Attempt.run_always_bind, run_makeDir]
  rcases ht.makeDir_of_passable h with ⟨d, hmake⟩ | ⟨hmake, hdir⟩ | ⟨hmake, hnot⟩
  · rw [hmake]
    exact ⟨_, rfl⟩
  · simp only [hmake, World.change]
    rw [run_unlessDirectory, if_pos hdir]
    exact ⟨_, rfl⟩
  · obtain ⟨w₁, hrun, ht₁, hpass, hopen⟩ := hrest hnot
    simp only [hmake, World.change]
    rw [Attempt.run_bind_ok hrun]
    exact makeDir_or_isDirectory ht₁ hpass hopen

/-- Making directories changes nothing else, wherever they are. -/
theorem createDirsAlong_univ (ht : w.disk.IsTree) (paths : List String) :
    w.Edits Set.univ ∅ ((createDirsAlong paths).run.run w).2 ∧
      ∀ path ∈ paths.head?, Made Set.univ path w ((createDirsAlong paths).run.run w) :=
  createDirsAlong_run ht fun _ _ _ _ => Set.subset_univ _

/-- **The directories that lead to a passable path** can be made. -/
theorem createDirsAlong_ancestorsOf (ht : w.disk.IsTree) (h : w.disk.Passable w.cwd path)
    {fuel : Nat} {xs : List String} (hfuel : xs.length < fuel)
    (hxs : xs <:+ (Path.pieces path).reverse) (htrim : Path.dropIdle xs = xs) :
    ∃ w', (createDirsAlong (Path.ancestorsOf (Path.isAbsolute path) fuel xs)).run.run w =
      (.ok (), w') := by
  induction fuel generalizing xs with
  | zero => omega
  | succ fuel ih =>
    by_cases hempty : Path.ofReversed (Path.isAbsolute path) xs = ""
    · obtain ⟨rest, hrest⟩ := Path.exists_ancestorsOf_succ (Path.isAbsolute path) fuel xs
      rw [hrest, hempty, createDirsAlong]
      exact ⟨w, rfl⟩
    have hpass := h.of_ofReversed hxs hempty
    cases xs with
    | nil =>
      refine createDirsAlong_cons ht hpass fun hnot => absurd ?_ hnot
      have hnil : ∀ absolute, bareSteps (Path.ofReversed absolute []) = [] := by decide
      rw [hnil]
      trivial
    | cons last before =>
      have hbefore : Path.dropIdle before <:+ (Path.pieces path).reverse :=
        Path.dropIdle_suffix_of_cons hxs
      have hlength := (Path.dropIdle_suffix before).length_le
      have hfuel' : (Path.dropIdle before).length < fuel := by
        rw [List.length_cons] at hfuel
        omega
      obtain ⟨w₁, hrun⟩ := ih hfuel' hbefore (Path.dropIdle_dropIdle before)
      refine createDirsAlong_cons ht hpass fun _ => ⟨w₁, hrun, ?_⟩
      -- the directories before are there now, and no file has come about
      obtain ⟨hedits, hmade⟩ := createDirsAlong_univ ht
        (Path.ancestorsOf (Path.isAbsolute path) fuel (Path.dropIdle before))
      rw [hrun] at hedits hmade
      have hcwd : w₁.cwd = w.cwd := hedits.cwd
      rw [hcwd]
      refine ⟨hedits.tree, hpass.mono hedits.disk,
        (h.mono hedits.disk).open_of_before hedits.tree hxs htrim hempty fun hne => ?_⟩
      have hhead : (Path.ancestorsOf (Path.isAbsolute path) fuel (Path.dropIdle before)).head? =
          some (Path.ofReversed (Path.isAbsolute path) (Path.dropIdle before)) := by
        obtain ⟨n, rfl⟩ : ∃ n, fuel = n + 1 := ⟨fuel - 1, by omega⟩
        obtain ⟨rest, hrest⟩ :=
          Path.exists_ancestorsOf_succ (Path.isAbsolute path) n (Path.dropIdle before)
        rw [hrest, List.head?_cons]
      have hdir := (hmade _ hhead).isDirectory rfl hne
      rwa [hcwd] at hdir

/-- **The directory of a path** is made, if it is passable. -/
theorem createDirs_parentDir (ht : w.disk.IsTree)
    (h : w.disk.Passable w.cwd (parentDir path)) :
    ∃ w', (createDirs (parentDir path)).run.run w = (.ok (), w') := by
  rcases parentDir_cases path with hroot | htrim
  · -- nothing is missing before the root
    obtain ⟨rest, hrest⟩ := exists_createDirs_eq (parentDir path)
    rw [hrest]
    refine createDirsAlong_cons ht h fun hnot => absurd ?_ hnot
    rw [hroot, show bareSteps "/" = [] by decide]
    trivial
  · rw [createDirs, Path.ancestors_eq htrim, htrim]
    refine createDirsAlong_ancestorsOf ht h (by simp) List.suffix_rfl ?_
    rw [← htrim, Path.reversedPieces, Path.dropIdle_dropIdle]

/-! ### Directories that are there in the end -/

/-- **The directories that lead to a directory** are there. -/
theorem isDirectory_of_mem_ancestors {d : Disk} {cwd : Location} {a : String} (ht : d.IsTree)
    (h : d.isDirectory cwd path = true) (ha : a ∈ Path.ancestors path) (hne : a ≠ "") :
    d.isDirectory cwd a = true := by
  obtain ⟨-, hopen, hget⟩ := ht.isDirectory_iff.mp h
  obtain ⟨hnames, habs⟩ := Path.of_mem_ancestors ha hne
  have hcheck : Disk.checkPath a = .ok () := by
    rcases Path.exists_of_mem_ancestors ha with rfl | ⟨ys, hys, rfl⟩
    · exact (ht.isDirectory_iff.mp h).1
    · exact ((ht.passable_of_isDirectory h).of_ofReversed hys hne).check
  have horigin : origin cwd a = origin cwd path := by rw [origin, origin, habs]
  refine ht.isDirectory_iff.mpr ⟨hcheck, ?_, ?_⟩
  · obtain ⟨rest, hrest⟩ := hnames
    rw [← hrest, Disk.open_append] at hopen
    rw [horigin]
    exact hopen.1
  · rw [placeOf, horigin]
    exact hopen.get?_of_prefix hget hnames

/-- What fails unless a directory on the way is there fails where it is not, and then the way leads
nowhere. -/
theorem not_isDirectory_of_unlessDirectory {p : String} {e e' : DiskError} {w' : World}
    (ht : w.disk.IsTree) (hp : p ∈ Path.ancestors path) (hne : p ≠ "")
    (hrun : (unlessDirectory p e').run.run w = (.error e, w')) :
    w'.disk.isDirectory w'.cwd path = false := by
  rw [run_unlessDirectory, Prod.mk.injEq] at hrun
  obtain ⟨herror, rfl⟩ := hrun
  by_contra hdir
  rw [if_pos (isDirectory_of_mem_ancestors ht (by simpa using hdir) hp hne)] at herror
  cases herror

/-- **A failure to make directories** that lead to a directory leaves it missing. -/
theorem not_isDirectory_of_createDirsAlong {paths : List String} {e : DiskError} {w' : World}
    (ht : w.disk.IsTree) (hpaths : ∀ p ∈ paths, p ∈ Path.ancestors path)
    (hrun : (createDirsAlong paths).run.run w = (.error e, w')) :
    w'.disk.isDirectory w'.cwd path = false := by
  induction paths generalizing w with
  | nil => cases hrun
  | cons p rest ih =>
    have hp := hpaths p List.mem_cons_self
    have hrest : ∀ q ∈ rest, q ∈ Path.ancestors path := fun q hq =>
      hpaths q (List.mem_cons_of_mem _ hq)
    rw [createDirsAlong] at hrun
    split at hrun
    · cases hrun
    · rename_i hempty
      have hne : p ≠ "" := fun hc => hempty (by simp [hc])
      rw [Attempt.run_always_bind] at hrun
      rcases makeDir_cases ht p with ⟨hok, -⟩ | ⟨e₁, he₁⟩
      · rw [hok] at hrun
        cases hrun
      · rw [he₁] at hrun
        split at hrun
        · rename_i hok
          cases hok
        · rcases hr : (createDirsAlong rest).run.run w with ⟨e₂ | u, w₁⟩
          · rw [Attempt.run_bind_error hr] at hrun
            cases hrun
            exact ih ht hrest hr
          · rw [Attempt.run_bind_ok hr] at hrun
            have hedits := (createDirsAlong_univ ht rest).1
            rw [hr] at hedits
            rw [Attempt.run_always_bind] at hrun
            rcases makeDir_cases hedits.tree p with ⟨hok, -⟩ | ⟨e₂, he₂⟩
            · rw [hok] at hrun
              cases hrun
            · rw [he₂] at hrun
              exact not_isDirectory_of_unlessDirectory hedits.tree hp hne hrun
        · exact not_isDirectory_of_unlessDirectory ht hp hne hrun

/-- **Making a directory succeeds exactly if it is there in the end**, or its path is empty. -/
theorem createDirs_eq_ok_iff {result : Except DiskError Unit} {w' : World} (ht : w.disk.IsTree)
    (hrun : (createDirs path).run.run w = (result, w')) :
    result = .ok () ↔ path = "" ∨ w'.disk.isDirectory w'.cwd path = true := by
  have hmade := createDirs_run ht path
  rw [hrun] at hmade
  constructor
  · rintro rfl
    exact or_iff_not_imp_left.mpr (hmade.isDirectory rfl)
  · cases hresult : result with
    | ok u => exact fun _ => rfl
    | error e =>
      rw [hresult] at hrun
      rintro (rfl | hdir)
      · rw [createDirs_empty] at hrun
        cases hrun
      · rw [not_isDirectory_of_createDirsAlong ht (fun _ hp => hp) hrun] at hdir
        cases hdir

end Directories

end TwinTypes
