import Mathlib.Data.List.Nodup
import TwinTypes.Proofs.Disk.Success
import TwinTypes.Proofs.Run.Visible

/-!
# The numbers of temporary files

A file is written whole by way of a temporary file, whose name ends in a number that the process has
not used before. Numbers are never given back, so the names grow with the work that a process has
done, and this is the one thing in which writing a file depends on the files that were written
before it: where directory and target are as they should be, all that can go wrong is that the name
or the path of the temporary file has become too long (`TwinTypes.World.Overlong`).

`atomicWrite_settles` says so of a single file, and says which number is drawn: the first one from
the counter on that is not taken (`TwinTypes.World.Settles`). There is always one, as a disk holds
fewer names than are tried (`createTemp_settles`). What the numbers of several files are is then a
matter of the names that are taken alone: `TwinTypes.World.Draws` and `TwinTypes.World.Blocked` say
how it may end, and exclude each other.
-/

namespace TwinTypes

open Disk (Reaches placeOf)

/-! ### Names with numbers -/

theorem World.tempName_injective (w : World) (name : String) :
    Function.Injective (w.tempName name) := by
  intro i j hij
  have hlist := congrArg String.toList hij
  simp only [World.tempName, String.toList_append, List.append_cancel_left_eq,
    Nat.toString_eq_ofList_toDigits, String.toList_ofList] at hlist
  rw [← @Nat.ofDigitChars_ten_toDigits i, hlist, Nat.ofDigitChars_ten_toDigits]

theorem nul_notMem_toDigits (n : Nat) : '\x00' ∉ Nat.toDigits 10 n := by
  intro h
  have hdigit : '\x00'.isDigit = true := Nat.isDigit_of_mem_toDigits (by omega) (by omega) h
  exact absurd hdigit (by decide)

theorem World.nul_notMem_tempName (w : World) {name : String} (h : '\x00' ∉ name.toList) (k : Nat) :
    '\x00' ∉ (w.tempName name k).toList := by
  simp [tempName, h, nul_notMem_toDigits]

/-- A joined path has no end mark if neither part has one. -/
theorem Path.nul_notMem_join {a b : String} (hb : Path.IsSegment b) (ha : '\x00' ∉ a.toList)
    (hnul : '\x00' ∉ b.toList) : '\x00' ∉ (Path.join a b).toList := by
  intro h
  rcases Path.mem_join (Path.isAbsolute_of_notMem hb.slash) h with h | h | h
  · exact ha h
  · exact absurd h (by decide)
  · exact hnul h

/-! ### The number that is drawn -/

namespace World

/-- **A number is taken** for a file in a directory: something has the name that it makes. -/
def Taken (w : World) (dir name : String) (k : Nat) : Prop :=
  w.disk.get? (placeOf w.cwd dir ++ [w.tempName name k]) ≠ none

/-- **A number is too long** for a file in a directory: the name that it makes, or its path, has too
many bytes. -/
def Overlong (w : World) (dir name : String) (k : Nat) : Prop :=
  Disk.Overlong dir (w.tempName name k)

/-- **The search for a number settles** on the first one from a given one on that is not taken, or
that is too long. -/
structure Settles (w : World) (dir name : String) (n k : Nat) : Prop where
  /-- It begins with the given one. -/
  le : n ≤ k
  /-- The ones before are passed over. -/
  passed : ∀ j, n ≤ j → j < k → w.Taken dir name j ∧ ¬w.Overlong dir name j
  /-- This one is not. -/
  stops : ¬w.Taken dir name k ∨ w.Overlong dir name k

variable {w v : World} {dir name : String} {n k k' : Nat}

/-- **It settles on one number.** -/
theorem Settles.unique (h : w.Settles dir name n k) (h' : w.Settles dir name n k') : k = k' := by
  have hle : ∀ {i j : Nat}, w.Settles dir name n i → w.Settles dir name n j → i ≤ j := by
    intro i j hi hj
    by_contra hlt
    obtain ⟨htaken, hshort⟩ := hi.passed j hj.le (Nat.not_le.mp hlt)
    exact hj.stops.elim (fun hfree => hfree htaken) fun hlong => hshort hlong
  exact Nat.le_antisymm (hle h h') (hle h' h)

/-- The number of the process decides what is too long. -/
theorem overlong_congr (hprocess : v.process = w.process) :
    v.Overlong dir name k ↔ w.Overlong dir name k := by
  rw [Overlong, Overlong, tempName, tempName, hprocess]

/-- **What is taken and what is too long decide.** -/
theorem Settles.congr (h : w.Settles dir name n k) (hprocess : v.process = w.process)
    (htaken : ∀ j, v.Taken dir name j ↔ w.Taken dir name j) : v.Settles dir name n k := by
  refine ⟨h.le, fun j hn hk => ?_, ?_⟩
  · rw [htaken, overlong_congr hprocess]
    exact h.passed j hn hk
  · rw [htaken, overlong_congr hprocess]
    exact h.stops

/-- **A disk holds fewer names than numbers are tried.** -/
theorem exists_not_taken (w : World) (dir name : String) (n : Nat) :
    ∃ k, n ≤ k ∧ k < n + (w.disk.entries.length + 1) ∧ ¬w.Taken dir name k := by
  by_contra hall
  push Not at hall
  let places := (List.range' n (w.disk.entries.length + 1)).map fun k =>
    placeOf w.cwd dir ++ [w.tempName name k]
  have hnodup : places.Nodup := by
    refine List.Nodup.map (fun i j hij => ?_) List.nodup_range'
    exact w.tempName_injective name (by simpa using hij)
  have hsubset : places ⊆ w.disk.entries.map Prod.fst := by
    intro loc hloc
    obtain ⟨k, hk, rfl⟩ := List.mem_map.mp hloc
    obtain ⟨hle, hlt⟩ := List.mem_range'_1.mp hk
    obtain ⟨entry, hget⟩ := Option.ne_none_iff_exists'.mp (hall k hle hlt)
    exact List.mem_map.mpr ⟨_, Disk.mem_of_get? (by simp) hget, rfl⟩
  have hlength := (List.subperm_of_subset hnodup hsubset).length_le
  simp [places] at hlength

section Create

variable (h : w.disk.IsTree) (hreach : w.disk.Reaches w.cwd dir) (hdir : '\x00' ∉ dir.toList)
  (hname : Path.IsSegment name) (hnul : '\x00' ∉ name.toList)

include h hreach hdir hname hnul

/-- **Searching for a number** settles, if there is one among those tried that is not taken. -/
theorem createTemp_settles {fuel : Nat} (hfree : ∃ k, n ≤ k ∧ k < n + fuel ∧ ¬w.Taken dir name k) :
    ∃ k, w.Settles dir name n k ∧
      ((w.Overlong dir name k ∧
          w.createTemp dir name fuel n = (.error .nameTooLong, { w with counter := k + 1 })) ∨
        (¬w.Overlong dir name k ∧ ∃ d,
          w.disk.createFile w.cwd (Path.join dir (w.tempName name k)) = .ok d ∧
          w.createTemp dir name fuel n =
            (.ok (Path.join dir (w.tempName name k)), { w with disk := d, counter := k + 1 }))) := by
  induction fuel generalizing n with
  | zero =>
    obtain ⟨k, hle, hlt, -⟩ := hfree
    omega
  | succ fuel ih =>
    have htemp := isSegment_tempName w hname n
    have hcreate := h.createFile_join hreach htemp
      (Path.nul_notMem_join htemp hdir (w.nul_notMem_tempName hnul n))
    have hfirst : ∀ j, n ≤ j → j < n → w.Taken dir name j ∧ ¬w.Overlong dir name j := by
      intro j hle hlt
      omega
    unfold World.createTemp
    dsimp only
    by_cases hlong : Disk.Overlong dir (w.tempName name n)
    · rw [if_pos hlong] at hcreate
      rw [hcreate]
      exact ⟨n, ⟨le_rfl, hfirst, Or.inr hlong⟩, Or.inl ⟨hlong, rfl⟩⟩
    · rw [if_neg hlong] at hcreate
      by_cases htaken : w.Taken dir name n
      · -- a name that is taken is passed over, and the search goes on with the next number
        rw [if_neg htaken] at hcreate
        rw [hcreate]
        obtain ⟨k, hle, hlt, hk⟩ := hfree
        have hne : k ≠ n := by
          rintro rfl
          exact hk htaken
        obtain ⟨k, hsettles, hrest⟩ := ih (n := n + 1) ⟨k, by omega, by omega, hk⟩
        refine ⟨k, ⟨by have := hsettles.le; omega, fun j hj hlt => ?_, hsettles.stops⟩, hrest⟩
        rcases Nat.eq_or_lt_of_le hj with rfl | hj
        · exact ⟨htaken, hlong⟩
        · exact hsettles.passed j hj hlt
      · rw [if_pos (not_not.mp htaken)] at hcreate
        rw [hcreate]
        exact ⟨n, ⟨le_rfl, hfirst, Or.inl htaken⟩, Or.inr ⟨hlong, _, hcreate, rfl⟩⟩

end Create

/-! ### The numbers of several files -/

/-- **The numbers that files draw**, one after another, each in its directory: the first one is
sought from `n` on, and the next one would be `m`. -/
inductive Draws (w : World) : List (String × String) → Nat → Nat → Prop
  /-- There is no file left. -/
  | nil (n : Nat) : Draws w [] n n
  /-- A file draws a number that is not too long. -/
  | cons {dir name : String} {files : List (String × String)} {n k m : Nat}
      (settles : w.Settles dir name n k) (short : ¬w.Overlong dir name k)
      (rest : Draws w files (k + 1) m) : Draws w ((dir, name) :: files) n m

/-- **Files that cannot all draw a number**: one of them gets to a number that is too long. -/
inductive Blocked (w : World) : List (String × String) → Nat → String → String → Nat → Prop
  /-- The first file does. -/
  | here {dir name : String} {files : List (String × String)} {n k : Nat}
      (settles : w.Settles dir name n k) (long : w.Overlong dir name k) :
      Blocked w ((dir, name) :: files) n dir name k
  /-- A later file does. -/
  | later {dir name dir' name' : String} {files : List (String × String)} {n k k' : Nat}
      (settles : w.Settles dir name n k) (short : ¬w.Overlong dir name k)
      (rest : Blocked w files (k + 1) dir' name' k') :
      Blocked w ((dir, name) :: files) n dir' name' k'

variable {files files' : List (String × String)} {m : Nat}

/-- **Files draw their numbers, or one of them cannot.** -/
theorem Draws.not_blocked (h : w.Draws files n m) : ¬w.Blocked files n dir name k := by
  induction h with
  | nil n => nofun
  | cons hsettles hshort _ ih =>
    rintro (⟨hsettles', hlong⟩ | ⟨hsettles', -, hrest⟩)
    · exact hshort (hsettles.unique hsettles' ▸ hlong)
    · exact ih (hsettles.unique hsettles' ▸ hrest)

theorem Draws.append (h : w.Draws files n k) (h' : w.Draws files' k m) :
    w.Draws (files ++ files') n m := by
  induction h with
  | nil n => exact h'
  | cons hsettles hshort _ ih => exact .cons hsettles hshort (ih h')

theorem Blocked.append_left (h : w.Blocked files n dir name k) (files' : List (String × String)) :
    w.Blocked (files ++ files') n dir name k := by
  induction h with
  | here hsettles hlong => exact .here hsettles hlong
  | later hsettles hshort _ ih => exact .later hsettles hshort ih

theorem Blocked.append_right (h : w.Draws files n m) (h' : w.Blocked files' m dir name k) :
    w.Blocked (files ++ files') n dir name k := by
  induction h with
  | nil n => exact h'
  | cons hsettles hshort _ ih => exact .later hsettles hshort (ih h')

/-- **A file after others** draws a number that is not too long and leaves one to each of them. -/
theorem Draws.exists_short {before after : List (String × String)}
    (h : w.Draws (before ++ (dir, name) :: after) n m) :
    ∃ k, n + before.length ≤ k ∧ ¬w.Overlong dir name k := by
  induction before generalizing n with
  | nil =>
    cases h with
    | cons hsettles hshort _ => exact ⟨_, hsettles.le, hshort⟩
  | cons file before ih =>
    cases h with
    | cons hsettles _ hrest =>
      obtain ⟨k, hle, hshort⟩ := ih hrest
      have hle' := hsettles.le
      rw [List.length_cons]
      exact ⟨k, by omega, hshort⟩

/-- **Where no number is taken** the files draw them one after another. -/
theorem draws_of_not_taken (hfree : ∀ f ∈ files, ∀ k, ¬w.Taken f.1 f.2 k)
    (hshort : ∀ f ∈ files, ∀ k < n + files.length, ¬w.Overlong f.1 f.2 k) :
    w.Draws files n (n + files.length) := by
  induction files generalizing n with
  | nil => exact .nil n
  | cons file rest ih =>
    rw [List.length_cons] at hshort
    have hrest := ih (n := n + 1) (fun f hf => hfree f (List.mem_cons_of_mem _ hf))
      fun f hf k hk => hshort f (List.mem_cons_of_mem _ hf) k (by omega)
    rw [show n + 1 + rest.length = n + (rest.length + 1) by omega] at hrest
    refine .cons ⟨le_rfl, fun j hn hj => ?_, Or.inl (hfree _ List.mem_cons_self n)⟩
      (hshort _ List.mem_cons_self n (by omega)) hrest
    omega

/-- The number that is too long is one of those that follow, for one of the files. -/
theorem Blocked.le (h : w.Blocked files n dir name k) :
    n ≤ k ∧ w.Overlong dir name k ∧ (dir, name) ∈ files := by
  induction h with
  | here hsettles hlong => exact ⟨hsettles.le, hlong, List.mem_cons_self⟩
  | later hsettles _ _ ih =>
    obtain ⟨hle, hlong, hmem⟩ := ih
    have hle' := hsettles.le
    exact ⟨by omega, hlong, List.mem_cons_of_mem _ hmem⟩

end World

/-! ### Directories that are there -/

section Directories

variable {w : World} {path : String}

/-- The path itself is tried first. -/
theorem exists_createDirs_eq (path : String) :
    ∃ rest, createDirs path = createDirsAlong (path :: rest) := by
  unfold createDirs Path.ancestors
  split
  · exact ⟨[], rfl⟩
  · exact ⟨_, rfl⟩

/-- **Making a directory that can be made at once.** -/
theorem createDirs_of_makeDir {d : Disk} (hne : path ≠ "")
    (hmake : w.disk.makeDir w.cwd path = .ok d) :
    (createDirs path).run.run w = (.ok (), { w with disk := d }) := by
  obtain ⟨rest, hrest⟩ := exists_createDirs_eq path
  rw [hrest, createDirsAlong, if_neg (by simpa using hne), Attempt.run_always_bind, run_makeDir,
    hmake]
  rfl

/-- **Making a directory that is there** does nothing. -/
theorem createDirs_of_isDirectory (h : w.disk.IsTree)
    (hdir : w.disk.isDirectory w.cwd path = true) :
    (createDirs path).run.run w = (.ok (), w) := by
  have hne := (Disk.of_checkPath (h.isDirectory_iff.mp hdir).1).2.1
  obtain ⟨rest, hrest⟩ := exists_createDirs_eq path
  rw [hrest, createDirsAlong, if_neg (by simpa using hne), Attempt.run_always_bind, run_makeDir,
    h.makeDir_of_isDirectory hdir]
  simp only [World.change]
  rw [run_unlessDirectory, hdir]
  rfl

end Directories

/-! ### A file written whole -/

section Write

variable {w : World} {dir name : String}

/-- **A temporary file draws a number**, unless it is too long. -/
theorem createTemp_settles (h : w.disk.IsTree) (hdir : w.disk.isDirectory w.cwd dir = true)
    (hname : Path.IsSegment name) (hnul : '\x00' ∉ name.toList) :
    ∃ k, w.Settles dir name w.counter k ∧
      ((w.Overlong dir name k ∧
          (Attempt.ofProgram (Program.request (.createTemp dir name)) :
            Attempt DiskError String).run.run w =
              (.error .nameTooLong, { w with counter := k + 1 })) ∨
        (¬w.Overlong dir name k ∧ ∃ d,
          w.disk.createFile w.cwd (Path.join dir (w.tempName name k)) = .ok d ∧
          (Attempt.ofProgram (Program.request (.createTemp dir name)) :
            Attempt DiskError String).run.run w =
              (.ok (Path.join dir (w.tempName name k)),
                { w with disk := d, counter := k + 1 }))) := by
  obtain ⟨hcheck, hreach⟩ := h.isDirectory_iff_reaches.mp hdir
  exact World.createTemp_settles h hreach (Disk.of_checkPath hcheck).1 hname hnul
    (w.exists_not_taken dir name w.counter)

/-- **A file that was just created is filled and moved**, if the target can be named and no
directory is in its place. -/
theorem exists_fillAndMove {temp : String} {d : Disk} (h : w.disk.IsTree)
    (hcreate : w.disk.createFile w.cwd temp = .ok d) (hreach : w.disk.Reaches w.cwd dir)
    (hname : Path.IsSegment name) (hnul : '\x00' ∉ (Path.join dir name).toList)
    (hshort : ¬Disk.Overlong dir name)
    (hfree : w.disk.get? (placeOf w.cwd dir ++ [name]) ≠ some .directory) (bytes : ByteArray)
    (n : Nat) :
    ∃ d₃, (fillAndMove temp (Path.join dir name) bytes).run.run
        { w with disk := d, counter := n } = (.ok (), { w with disk := d₃, counter := n }) := by
  obtain ⟨d₂, happend, hfilled⟩ := h.exists_appendFile hcreate bytes
  -- the directories are those that were there before the file was created
  have hkeep : w.disk.KeepsDirectories d₂ := by
    intro loc hloc
    rw [hfilled.get?, if_neg]
    · exact hloc
    · rintro rfl
      rw [hfilled.vacant] at hloc
      cases hloc
  have hgoal : d₂.get? (placeOf w.cwd dir ++ [name]) ≠ some .directory := by
    rw [hfilled.get?]
    split
    · simp
    · exact hfree
  have hrename := hfilled.renameFile_join (hreach.mono hkeep) hname hnul hshort hgoal
  rw [fillAndMove_run (w := { w with disk := d, counter := n }) happend, hrename]
  exact ⟨_, rfl⟩

/-- **Writing a file whole** into a directory succeeds, unless the number of its temporary file is
too long. The file must have a short enough name, and no directory must be in its place. -/
theorem atomicWrite_settles (h : w.disk.IsTree) (hdir : w.disk.isDirectory w.cwd dir = true)
    (hparent : parentDir (Path.join dir name) = dir)
    (hfile : Path.fileName (Path.join dir name) = some name) (hname : Path.IsSegment name)
    (hnul : '\x00' ∉ name.toList) (hshort : ¬Disk.Overlong dir name)
    (hfree : w.disk.get? (placeOf w.cwd dir ++ [name]) ≠ some .directory) (bytes : ByteArray) :
    ∃ k, w.Settles dir name w.counter k ∧
      ((w.Overlong dir name k ∧
          (atomicWrite (Path.join dir name) bytes).run.run w =
            (.error (.io (Path.join dir name) .nameTooLong), { w with counter := k + 1 })) ∨
        (¬w.Overlong dir name k ∧ ∃ d,
          (atomicWrite (Path.join dir name) bytes).run.run w =
            (.ok (), { w with disk := d, counter := k + 1 }))) := by
  obtain ⟨hcheck, hreach⟩ := h.isDirectory_iff_reaches.mp hdir
  obtain ⟨k, hsettles, hcases⟩ := createTemp_settles h hdir hname hnul
  refine ⟨k, hsettles, ?_⟩
  generalize hpath : Path.join dir name = path at hparent hfile ⊢
  subst hparent
  unfold atomicWrite
  simp only
  rw [Attempt.run_bind_ok (Attempt.run_orFail_ok (createDirs_of_isDirectory h hdir)), hfile]
  simp only
  rcases hcases with ⟨hlong, htemp⟩ | ⟨hfits, d, hcreate, htemp⟩
  · rw [Attempt.run_bind_error (Attempt.run_orFail_error htemp)]
    exact Or.inl ⟨hlong, rfl⟩
  · rw [Attempt.run_bind_ok (Attempt.run_orFail_ok htemp)]
    refine Or.inr ⟨hfits, ?_⟩
    have hnul' : '\x00' ∉ (Path.join (parentDir path) name).toList :=
      Path.nul_notMem_join hname (Disk.of_checkPath hcheck).1 hnul
    obtain ⟨d₃, hmove⟩ := exists_fillAndMove h hcreate hreach hname hnul' hshort hfree bytes (k + 1)
    rw [hpath] at hmove
    rw [Attempt.run_outcome_bind, hmove]
    exact ⟨d₃, rfl⟩

end Write

end TwinTypes
