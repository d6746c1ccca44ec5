import TwinTypes.Proofs.Disk.Landing
import TwinTypes.Proofs.Run.Looking
import TwinTypes.Proofs.Run.Succeeding

/-!
# What decides how a run ends

Two processes that do the same on the same disk end alike and leave the same disk, whatever they
have reported and written before. One thing stands in the way, and it is in the statements here: the
names of temporary files have the number of the process in them, and how many it has made, and so in
one process a name can be too long that fits in another one (`TwinTypes.World.CutShort`).

A program is decided (`TwinTypes.Attempt.Decided`) if the disk and the working directory decide how
it ends, but for runs that are cut short. Programs that only look are, and one program after another
is if both are (`Decided.bind`), so the whole generator is once it has been settled for a single
file. What is written there may fail for many reasons, but none of them has to do with the temporary
file: `TwinTypes.Disk.replace` names them without it.
-/

namespace TwinTypes

open Disk (placeOf)

/-! ### What never changes -/

namespace World

/-- Nothing makes a process work in another directory. -/
theorem answer_cwd (w : World) (r : Request) : (w.answer r).2.cwd = w.cwd := by
  have hchange : ∀ result : Except DiskError Disk, (w.change result).2.cwd = w.cwd := by
    rintro (e | d) <;> rfl
  cases r with
  | makeDir path => exact hchange _
  | append path bytes => exact hchange _
  | rename source target => exact hchange _
  | remove path => exact hchange _
  | createTemp dir name =>
    change (w.createTemp dir name _ _).2.cwd = w.cwd
    rcases w.createTemp_cases dir name (w.disk.entries.length + 1) w.counter with
      ⟨k, d, n, -, h⟩ | ⟨e, n, h⟩
    · rw [h]
    · rw [h]
  | _ => rfl

theorem counter_le_createTemp (w : World) (dir name : String) (fuel n : Nat) :
    n ≤ (w.createTemp dir name fuel n).2.counter := by
  induction fuel generalizing n with
  | zero => exact le_rfl
  | succ fuel ih =>
    unfold createTemp
    dsimp only
    split
    · exact Nat.le_succ n
    · exact (Nat.le_succ n).trans (ih (n + 1))
    · exact Nat.le_succ n

/-- Numbers are never given back. -/
theorem counter_le_answer (w : World) (r : Request) : w.counter ≤ (w.answer r).2.counter := by
  have hchange : ∀ result : Except DiskError Disk, w.counter ≤ (w.change result).2.counter := by
    rintro (e | d) <;> exact le_rfl
  cases r with
  | makeDir path => exact hchange _
  | append path bytes => exact hchange _
  | rename source target => exact hchange _
  | remove path => exact hchange _
  | createTemp dir name => exact w.counter_le_createTemp dir name _ w.counter
  | _ => exact le_rfl

end World

namespace Program

variable {α : Type}

/-- **A process works in one directory.** -/
theorem run_cwd (p : Program α) (w : World) : (p.run w).2.cwd = w.cwd := by
  induction p generalizing w with
  | done a => rfl
  | act r next ih => exact (ih (w.answer r).1 (w.answer r).2).trans (w.answer_cwd r)

theorem cwd_eq_of_run {p : Program α} {w w' : World} {a : α} (h : p.run w = (a, w')) :
    w'.cwd = w.cwd :=
  (congrArg (fun r => r.2.cwd) h).symm.trans (p.run_cwd w)

/-- **Numbers are never given back.** -/
theorem counter_le_run (p : Program α) (w : World) : w.counter ≤ (p.run w).2.counter := by
  induction p generalizing w with
  | done a => exact le_rfl
  | act r next ih => exact (w.counter_le_answer r).trans (ih (w.answer r).1 (w.answer r).2)

end Program

/-! ### Decided programs -/

variable {ε ε' α β : Type}

/-- **A run that is cut short**: it fails at a file since the name or the path of the temporary file
has too many bytes, with a number that the run has got to. The relation says which failures are such
failures, and at which path. -/
def World.CutShort (tooLong : ε → String → Prop) (w : World) (result : Except ε α × World) : Prop :=
  ∃ e path name k, result.1 = .error e ∧ tooLong e path ∧ Path.fileName path = some name ∧
    w.counter ≤ k ∧ k < result.2.counter ∧ w.Overlong (parentDir path) name k

/-- **How a program ends that is decided by the disk**: with a result, and leaving a tree, wherever
it runs, unless it is cut short. -/
structure Attempt.EndsIn (p : Attempt ε α) (tooLong : ε → String → Prop) (d : Disk) (cwd : Location)
    (result : Except ε α) (d' : Disk) : Prop where
  /-- It leaves a tree. -/
  tree : d'.IsTree
  /-- It does so in every process. -/
  run : ∀ v : World, v.disk = d → v.cwd = cwd →
    ((p.run.run v).1 = result ∧ (p.run.run v).2.disk = d') ∨ v.CutShort tooLong (p.run.run v)

/-- **A program that is decided by the disk.** -/
def Attempt.Decided (p : Attempt ε α) (tooLong : ε → String → Prop) : Prop :=
  ∀ d cwd, d.IsTree → ∃ result d', p.EndsIn tooLong d cwd result d'

section Bind

variable {tooLong : ε → String → Prop} {tooLong' : ε' → String → Prop} {p : Attempt ε α}
  {f : α → Attempt ε β} {v v' : World}

/-- A run that is cut short fails. -/
theorem World.CutShort.ne_ok {result : Except ε α × World} (h : v.CutShort tooLong result) (a : α) :
    result.1 ≠ .ok a := by
  obtain ⟨e, path, name, k, hfail, -⟩ := h
  rw [hfail]
  intro hok
  cases hok

/-- A run that is cut short later is cut short. -/
theorem World.CutShort.later {result : Except ε α × World} (hprocess : v'.process = v.process)
    (hcounter : v.counter ≤ v'.counter) (h : v'.CutShort tooLong result) :
    v.CutShort tooLong result := by
  obtain ⟨e, path, name, k, hfail, htoo, hname, hle, hlt, hlong⟩ := h
  exact ⟨e, path, name, k, hfail, htoo, hname, hcounter.trans hle, hlt,
    (World.overlong_congr hprocess).mp hlong⟩

/-- What follows a run that is cut short is not run. -/
theorem World.CutShort.bind (h : v.CutShort tooLong (p.run.run v)) (f : α → Attempt ε β) :
    v.CutShort tooLong ((p >>= f).run.run v) := by
  obtain ⟨e, path, name, k, hfail, htoo, hname, hle, hlt, hlong⟩ := h
  rcases hrun : p.run.run v with ⟨e' | a, v'⟩
  · rw [hrun] at hfail hlt
    rw [Attempt.run_bind_error hrun]
    obtain rfl : e' = e := Except.error.inj hfail
    exact ⟨e', path, name, k, rfl, htoo, hname, hle, hlt, hlong⟩
  · rw [hrun] at hfail
    cases hfail

namespace Attempt

/-- A run after one that ended as it does. -/
theorem run_bind_of_ok {a : α} (h : (p.run.run v).1 = .ok a) (f : α → Attempt ε β) :
    (p >>= f).run.run v = (f a).run.run (p.run.run v).2 :=
  run_bind_ok (Prod.ext h rfl)

theorem run_bind_of_error {e : ε} (h : (p.run.run v).1 = .error e) (f : α → Attempt ε β) :
    (p >>= f).run.run v = (.error e, (p.run.run v).2) :=
  run_bind_error (Prod.ext h rfl)

/-- What follows a program that fails is not run. -/
theorem EndsIn.bind_error {d d₁ : Disk} {cwd : Location} {e : ε}
    (hp : p.EndsIn tooLong d cwd (.error e) d₁) (f : α → Attempt ε β) :
    (p >>= f).EndsIn tooLong d cwd (.error e) d₁ := by
  refine ⟨hp.tree, fun v hdisk hcwd => ?_⟩
  rcases hp.run v hdisk hcwd with ⟨hfail, hafter⟩ | hcut
  · rw [run_bind_of_error hfail]
    exact Or.inl ⟨rfl, hafter⟩
  · exact Or.inr (hcut.bind f)

/-- The next program goes on where one ended. -/
theorem EndsIn.bind_ok {d d₁ d₂ : Disk} {cwd : Location} {a : α} {result : Except ε β}
    (hp : p.EndsIn tooLong d cwd (.ok a) d₁) (hf : (f a).EndsIn tooLong d₁ cwd result d₂) :
    (p >>= f).EndsIn tooLong d cwd result d₂ := by
  refine ⟨hf.tree, fun v hdisk hcwd => ?_⟩
  rcases hp.run v hdisk hcwd with ⟨hok, hafter⟩ | hcut
  · rw [run_bind_of_ok hok]
    have hcwd' : (p.run.run v).2.cwd = cwd := (p.run.run_cwd v).trans hcwd
    exact (hf.run _ hafter hcwd').imp_right fun hcut =>
      hcut.later (p.run.run_process v) (p.run.counter_le_run v)
  · exact Or.inr (hcut.bind f)

/-- **One program after another is decided if both are.** -/
theorem Decided.bind (hp : p.Decided tooLong) (hf : ∀ a, (f a).Decided tooLong) :
    (p >>= f).Decided tooLong := by
  intro d cwd htree
  obtain ⟨result, d₁, hends⟩ := hp d cwd htree
  cases result with
  | error e => exact ⟨.error e, d₁, hends.bind_error f⟩
  | ok a =>
    obtain ⟨result, d₂, hends'⟩ := hf a d₁ cwd hends.tree
    exact ⟨result, d₂, hends.bind_ok hends'⟩

/-- **What only looks is decided**, and is never cut short. -/
theorem decided_looks (h : p.run.Only (Request.Looks Set.univ)) : p.Decided tooLong := by
  intro d cwd htree
  refine ⟨(p.run.run (.start d cwd)).1, d, htree, fun v hdisk hcwd => Or.inl ⟨?_, ?_⟩⟩
  · exact h.run_congr hdisk hcwd
  · rw [World.disk_eq_of_base (h.base_run v), hdisk]

theorem decided_pure (a : α) : (pure a : Attempt ε α).Decided tooLong :=
  decided_looks (only_pure a)

theorem decided_always {p : Program α} (h : p.Only (Request.Looks Set.univ)) :
    (always p : Attempt ε α).Decided tooLong :=
  decided_looks (only_always h)

/-- Putting failures in another way. -/
theorem Decided.orFail {g : ε → ε'} (hp : p.Decided tooLong)
    (hg : ∀ e path, tooLong e path → tooLong' (g e) path) : (p.orFail g).Decided tooLong' := by
  intro d cwd htree
  obtain ⟨result, d₁, hends⟩ := hp d cwd htree
  refine ⟨result.mapError g, d₁, hends.tree, fun v hdisk hcwd => ?_⟩
  have hrun : (p.orFail g).run.run v = ((p.run.run v).1.mapError g, (p.run.run v).2) := by
    rcases hrun : p.run.run v with ⟨e | a, v'⟩
    · exact run_orFail_error hrun
    · exact run_orFail_ok hrun
  rw [hrun]
  rcases hends.run v hdisk hcwd with ⟨hresult, hafter⟩ | hcut
  · exact Or.inl ⟨congrArg (Except.mapError g) hresult, hafter⟩
  · obtain ⟨e, path, name, k, hfail, htoo, hrest⟩ := hcut
    exact Or.inr ⟨g e, path, name, k, by rw [hfail]; rfl, hg e path htoo, hrest⟩

end Attempt

end Bind

/-! ### Directories -/

/-- A program that acts on the disk alone does the same to the same disk. -/
theorem Program.DiskOnly.exists_end {p : Program α} (h : p.DiskOnly) (d : Disk) (cwd : Location) :
    ∃ a d', ∀ v : World, v.disk = d → v.cwd = cwd → p.run v = (a, { v with disk := d' }) := by
  obtain ⟨d', hstart, -⟩ := h (.start d cwd) (.start d cwd) rfl rfl
  refine ⟨(p.run (.start d cwd)).1, d', fun v hdisk hcwd => ?_⟩
  obtain ⟨d'', hstart', hv⟩ := h (.start d cwd) v hdisk hcwd
  rw [hstart] at hstart'
  have hsame : d' = d'' := congrArg (fun r => r.2.disk) hstart'
  rw [hv, hsame]

theorem decided_createDirs (path : String) (tooLong : DiskError → String → Prop) :
    (createDirs path).Decided tooLong := by
  intro d cwd htree
  obtain ⟨result, d', hend⟩ := (diskOnly_createDirs path).exists_end d cwd
  have hmade := createDirs_run (w := .start d cwd) htree path
  rw [hend (.start d cwd) rfl rfl] at hmade
  refine ⟨result, d', hmade.edits.tree, fun v hdisk hcwd => Or.inl ?_⟩
  rw [hend v hdisk hcwd]
  exact ⟨rfl, rfl⟩

/-! ### Files -/

/-- The failures at a path that a name is too long. -/
def GenError.TooLong (e : GenError) (path : String) : Prop :=
  e = .io path .nameTooLong

section Files

variable {d : Disk} {cwd : Location} {path : String} {bytes : ByteArray}

/-- A name with an end mark in it cannot be made temporary. -/
theorem createTemp_nul {w : World} {dir name : String} (hname : Path.IsSegment name)
    (hnul : '\x00' ∈ name.toList) :
    (Attempt.ofProgram (Program.request (.createTemp dir name)) :
      Attempt DiskError String).run.run w =
        (.error .nulInPath, { w with counter := w.counter + 1 }) := by
  have htemp := isSegment_tempName w hname w.counter
  obtain ⟨front, hfront⟩ := Path.exists_join_eq dir (Path.isAbsolute_of_notMem htemp.slash)
  have hmem : '\x00' ∈ (Path.join dir (w.tempName name w.counter)).toList := by
    rw [hfront]
    simp [World.tempName, hnul]
  have hcreate : w.disk.createFile w.cwd (Path.join dir (w.tempName name w.counter)) =
      .error .nulInPath := by
    simp [Disk.createFile, Disk.resolve, Disk.checkPath, hmem, bind, Except.bind]
  change w.createTemp dir name (w.disk.entries.length + 1) w.counter = _
  unfold World.createTemp
  simp only [hcreate]

/-- **A file for which a number has been drawn** is written or not as the disk without its temporary
file decides. -/
theorem atomicWrite_run_of_drawn {w : World} {name : String} {k n : Nat} (h : w.disk.IsTree)
    (hdir : w.disk.isDirectory w.cwd (parentDir path) = true)
    (hname : Path.fileName path = some name)
    (hcreate : w.disk.createFile w.cwd (Path.join (parentDir path) (w.tempName name k)) = .ok d)
    (htemp : (Attempt.ofProgram (Program.request (.createTemp (parentDir path) name)) :
      Attempt DiskError String).run.run w =
        (.ok (Path.join (parentDir path) (w.tempName name k)),
          { w with disk := d, counter := n })) :
    (atomicWrite path bytes).run.run w =
      match w.disk.replace w.cwd path bytes with
      | .ok d' => (.ok (), { w with disk := d', counter := n })
      | .error e => (.error (.io path e), { w with counter := n }) := by
  obtain ⟨-, -, hsegment⟩ := Path.of_fileName hname
  obtain ⟨d₂, happend, hfilled⟩ := h.exists_appendFile hcreate bytes
  have hreach : w.disk.Reaches w.cwd (parentDir path) := (h.isDirectory_iff_reaches.mp hdir).2
  have hplace := Disk.placeOf_join w.cwd (parentDir path) (isSegment_tempName w hsegment k)
  have hne : w.tempName name k ≠ name := by
    intro heq
    have hlength := le_length_tempName w name k
    rw [heq] at hlength
    omega
  have hrename := hfilled.renameFile_eq h hname hreach hplace hne
  unfold atomicWrite
  dsimp only
  rw [Attempt.run_bind_ok (Attempt.run_orFail_ok (createDirs_of_isDirectory h hdir)), hname]
  dsimp only
  rw [Attempt.run_bind_ok (Attempt.run_orFail_ok htemp), Attempt.run_outcome_bind,
    fillAndMove_run (w := { w with disk := d, counter := n }) happend path, hrename]
  cases w.disk.replace w.cwd path bytes with
  | ok d' => rfl
  | error e =>
    have hdiscard := discard_run (w := { w with disk := d₂, counter := n })
      (hfilled.removeFile_eq h)
    simp only [World.change]
    rw [Attempt.run_always_bind, hdiscard]
    rfl

/-- **Writing a file whole** into a directory that is there. -/
theorem exists_endsIn_atomicWrite (h : d.IsTree) (hdir : d.isDirectory cwd (parentDir path) = true)
    (bytes : ByteArray) :
    ∃ result d', (atomicWrite path bytes).EndsIn GenError.TooLong d cwd result d' := by
  cases hname : Path.fileName path with
  | none =>
    refine ⟨.error (.io path .noFileName), d, h, ?_⟩
    rintro v rfl rfl
    unfold atomicWrite
    dsimp only
    rw [Attempt.run_bind_ok (Attempt.run_orFail_ok (createDirs_of_isDirectory h hdir)), hname]
    exact Or.inl ⟨rfl, rfl⟩
  | some name =>
    obtain ⟨-, -, hsegment⟩ := Path.of_fileName hname
    by_cases hnul : '\x00' ∈ name.toList
    · refine ⟨.error (.io path .nulInPath), d, h, ?_⟩
      rintro v rfl rfl
      unfold atomicWrite
      dsimp only
      rw [Attempt.run_bind_ok (Attempt.run_orFail_ok (createDirs_of_isDirectory h hdir)), hname]
      dsimp only
      rw [Attempt.run_bind_error (Attempt.run_orFail_error (createTemp_nul hsegment hnul))]
      exact Or.inl ⟨rfl, rfl⟩
    · -- the disk decides by `replace`, which does not know of the temporary file
      refine ⟨(d.replace cwd path bytes).map (fun _ => ()) |>.mapError (.io path),
        (d.replace cwd path bytes).toOption.getD d, ?_, ?_⟩
      · cases hreplace : d.replace cwd path bytes with
        | ok d' => exact (h.of_replace hreplace).tree
        | error e => exact h
      · rintro v rfl rfl
        obtain ⟨k, hsettles, hcases⟩ := createTemp_settles h hdir hsegment hnul
        rcases hcases with ⟨hlong, htemp⟩ | ⟨-, d₁, hcreate, htemp⟩
        · unfold atomicWrite
          dsimp only
          rw [Attempt.run_bind_ok (Attempt.run_orFail_ok (createDirs_of_isDirectory h hdir)), hname]
          dsimp only
          rw [Attempt.run_bind_error (Attempt.run_orFail_error htemp)]
          exact Or.inr ⟨_, path, name, k, rfl, rfl, hname, hsettles.le, Nat.lt_succ_self k, hlong⟩
        · rw [atomicWrite_run_of_drawn h hdir hname hcreate htemp]
          cases v.disk.replace v.cwd path bytes with
          | ok d' => exact Or.inl ⟨rfl, rfl⟩
          | error e => exact Or.inl ⟨rfl, rfl⟩

/-- What is done first is done once: directories that are there are not made again. -/
theorem atomicWrite_run_of_createDirs {v : World} {d₁ : Disk} (h : d₁.IsTree)
    (hdir : d₁.isDirectory v.cwd (parentDir path) = true)
    (hmake : (createDirs (parentDir path)).run.run v = (.ok (), { v with disk := d₁ })) :
    (atomicWrite path bytes).run.run v =
      (atomicWrite path bytes).run.run { v with disk := d₁ } := by
  have hagain : (createDirs (parentDir path)).run.run { v with disk := d₁ } =
      (.ok (), { v with disk := d₁ }) := createDirs_of_isDirectory h hdir
  unfold atomicWrite
  dsimp only
  rw [Attempt.run_bind_ok (Attempt.run_orFail_ok hmake),
    Attempt.run_bind_ok (Attempt.run_orFail_ok hagain)]

/-- **Writing a file whole is decided.** -/
theorem decided_atomicWrite (path : String) (bytes : ByteArray) :
    (atomicWrite path bytes).Decided GenError.TooLong := by
  intro d cwd htree
  obtain ⟨result, d₁, hend⟩ := (diskOnly_createDirs (parentDir path)).exists_end d cwd
  have hmade := createDirs_run (w := .start d cwd) htree (parentDir path)
  rw [hend (.start d cwd) rfl rfl] at hmade
  have htree₁ : d₁.IsTree := hmade.edits.tree
  cases result with
  | error e =>
    refine ⟨.error (.io (parentDir path) e), d₁, htree₁, fun v hdisk hcwd => Or.inl ?_⟩
    unfold atomicWrite
    dsimp only
    rw [Attempt.run_bind_error (Attempt.run_orFail_error (hend v hdisk hcwd))]
    exact ⟨rfl, rfl⟩
  | ok u =>
    have hne : parentDir path ≠ "" := by
      unfold parentDir
      split
      · split
        · decide
        · rename_i hempty
          simpa using hempty
      · decide
    have hdir : d₁.isDirectory cwd (parentDir path) = true := hmade.isDirectory rfl hne
    obtain ⟨result, d', hends⟩ := exists_endsIn_atomicWrite htree₁ hdir bytes
    refine ⟨result, d', hends.tree, fun v hdisk hcwd => ?_⟩
    subst hcwd
    rw [atomicWrite_run_of_createDirs htree₁ hdir (hend v hdisk rfl)]
    exact (hends.run { v with disk := d₁ } rfl rfl).imp_right fun hcut => hcut.later rfl le_rfl

end Files

/-! ### The generator and the index -/

section Generator

variable {onPair : GeneratedPair → Program Unit}

theorem decided_writeFiles (dir : String) (files : List (String × String)) :
    (writeFiles dir files).Decided GenError.TooLong := by
  induction files with
  | nil => exact Attempt.decided_pure ()
  | cons file rest ih =>
    rw [writeFiles]
    exact (decided_atomicWrite _ _).bind fun _ => ih

theorem decided_writePair (out : String) (artifacts : Artifacts) :
    (writePair out artifacts).Decided GenError.TooLong := by
  unfold writePair
  have hdirs := decided_createDirs (Path.join out artifacts.dirName) fun _ _ => False
  exact (hdirs.orFail fun _ _ => False.elim).bind fun _ =>
    (decided_writeFiles _ _).bind fun _ => Attempt.decided_pure _

theorem decided_generatePair (honPair : ∀ entry, (onPair entry).Only (Request.Looks Set.univ))
    (registry : Registry) (out : String) (pair : MappingPair) :
    (generatePair registry out onPair pair).Decided GenError.TooLong := by
  unfold generatePair
  exact (Attempt.decided_always (looks_reportUnknown registry pair)).bind fun _ =>
    (Attempt.decided_always (looks_reportUnmapped registry pair)).bind fun _ =>
      (decided_writePair out _).bind fun _ =>
        (Attempt.decided_always (looks_report _)).bind fun _ =>
          (Attempt.decided_always (honPair _)).bind fun _ => Attempt.decided_pure _

/-- **Generating is decided**, for every observer that only looks. -/
theorem decided_generate (honPair : ∀ entry, (onPair entry).Only (Request.Looks Set.univ))
    (registry : Registry) (pairs : List MappingPair) (out : String) :
    (generate registry pairs out onPair).Decided GenError.TooLong := by
  have hall : (generateAll registry out onPair pairs).Decided GenError.TooLong := by
    induction pairs with
    | nil => exact Attempt.decided_pure _
    | cons pair rest ih =>
      rw [generateAll]
      exact (decided_generatePair honPair registry out pair).bind fun _ =>
        ih.bind fun _ => Attempt.decided_pure _
  unfold generate
  have hdirs := decided_createDirs out fun _ _ => False
  exact (hdirs.orFail fun _ _ => False.elim).bind fun _ =>
    hall.bind fun _ => Attempt.decided_pure _

/-- The failures of commands at a path that a name is too long. -/
def CommandError.TooLong (e : CommandError) (path : String) : Prop :=
  e = .generation (.io path .nameTooLong) ∨ ∃ file, e = .index file (.io path .nameTooLong)

/-- **Making an index anew is decided.** -/
theorem decided_rebuildIndex (out file : String) :
    (rebuildIndex out file).Decided CommandError.TooLong := by
  unfold rebuildIndex
  have hbuild : ((buildIndex out).orFail (CommandError.scan out)).Decided CommandError.TooLong :=
    Attempt.decided_looks (Attempt.only_orFail (looks_buildIndex (Set.subset_univ _)) _)
  refine hbuild.bind fun index => ?_
  have hwrite : (writeIndex file index).Decided GenError.TooLong := decided_atomicWrite _ _
  refine (hwrite.orFail fun e path he => Or.inr ⟨file, congrArg _ he⟩).bind fun _ => ?_
  exact (Attempt.decided_always (looks_report _)).bind fun _ => Attempt.decided_pure _

end Generator

end TwinTypes
