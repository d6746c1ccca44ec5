import TwinTypes.Proofs.Run.Indexing
import TwinTypes.Proofs.Run.Looking
import TwinTypes.Proofs.Run.WholeFile

/-!
# What a command owns

Of the four commands only two write. `runArguments_keeps` says for every run of the program, by what
its arguments call and how that ends, what is left of the disk as it was: everything, unless
settings and pairs were there and something was to be written; and where an index is made anew,
everything but the index file and the directories on the way to it.

Nothing has to be undone for that. The settings, the pairs and the index are complete before the
first request that changes a disk, since what finds them only looks (`reads_loadSettings`,
`looks_requestedPairs`, `looks_buildIndex`); and writing the index file is writing a file whole.
-/

namespace TwinTypes

open CommandLine (Command Invocation Stop)
open Disk (onTheWay placeOf)

variable {w w' : World} {code : Nat}

/-- What making an index anew leaves behind. -/
structure Rebuilt (file : String) (w : World) (result : Except CommandError MappingIndex × World) :
    Prop where
  /-- The index file may have been written, and nothing has been said. -/
  edits : w.Edits (onTheWay w.cwd (parentDir file)) {placeOf w.cwd file} result.2
  /-- An index that is made can be read. -/
  readFile : ∀ made, result.1 = .ok made →
    result.2.disk.readFile w.cwd file = .ok made.text.toUTF8
  /-- A failure leaves the files as they are. -/
  untouched : ∀ e, result.1 = .error e → w.Edits (onTheWay w.cwd (parentDir file)) ∅ result.2

/-- **Making an index anew** writes the index file, or no file at all. -/
theorem rebuildIndex_run (h : w.disk.IsTree) (out file : String) :
    Rebuilt file w ((rebuildIndex out file).run.run w) := by
  obtain ⟨-, hlogs⟩ := buildIndex_run out w
  unfold rebuildIndex
  rcases hbuild : (buildIndex out).run.run w with ⟨e | index, v⟩
  · rw [hbuild] at hlogs
    rw [Attempt.run_bind_error (Attempt.run_orFail_error hbuild)]
    exact ⟨hlogs.edits h _ _, nofun, fun _ _ => hlogs.edits h _ _⟩
  · rw [hbuild] at hlogs
    have hfirst := fun files => hlogs.edits h (onTheWay w.cwd (parentDir file)) files
    have hwritten : Written (onTheWay v.cwd (parentDir file)) file _ v
      ((writeIndex file index).run.run v) :=
        atomicWrite_run (hfirst ∅).tree file index.text.toUTF8
    have hedits := hwritten.edits
    rw [hlogs.cwd] at hwritten hedits
    rw [Attempt.run_bind_ok (Attempt.run_orFail_ok hbuild)]
    rcases hwrite : (writeIndex file index).run.run v with ⟨e | u, v'⟩
    · rw [hwrite] at hedits hwritten
      rw [Attempt.run_bind_error (Attempt.run_orFail_error hwrite)]
      exact ⟨(hfirst _).trans hedits, nofun,
        fun _ _ => (hfirst _).trans (hwritten.untouched e rfl)⟩
    · rw [hwrite] at hedits hwritten
      have hread : v'.disk.readFile v'.cwd file = .ok index.text.toUTF8 := hwritten.readFile rfl
      have hcwd : v'.cwd = w.cwd := hedits.cwd.trans hlogs.cwd
      rw [hcwd] at hread
      rw [Attempt.run_bind_ok (Attempt.run_orFail_ok hwrite), Attempt.run_always_bind]
      refine ⟨(hfirst _).trans (hedits.trans ⟨rfl, rfl, .refl hedits.tree⟩), ?_, nofun⟩
      rintro made hmade
      obtain rfl : index = made := Except.ok.inj hmade
      exact hread

/-- What a command leaves as it is under some settings, given the exit code and the disk in the
end. -/
def CommandLine.Command.Keeps (config : Config) (w : World) (code : Nat) (d : Disk) :
    Command → Prop
  | .inspect _ _ _ _ | .pairs _ => code = successCode ∧ d = w.disk
  | .generate input builtin _ _ _ =>
    ∀ e, ((requestedPairs input builtin config).run.run w).1 = .error e →
      code = failureCode ∧ d = w.disk
  | .index _ indexFile _ =>
    let file := indexFile.getD config.indexFile
    (code = successCode ∧
        w.disk.Changes (onTheWay w.cwd (parentDir file)) {placeOf w.cwd file} d) ∨
      (code = failureCode ∧ w.disk.Changes (onTheWay w.cwd (parentDir file)) ∅ d)

/-- **What a run leaves as it is**, given what its arguments call, the exit code and the disk in the
end. -/
def Keeps (env : Environment) (w : World) (code : Nat) (d : Disk) :
    Except Stop Invocation → Prop
  | .error stop =>
    d = w.disk ∧
      match stop with
      | .help _ | .version => code = successCode
      | .nothing _ | .refuse _ => code = failureCode
  | .ok invocation =>
    match ((loadSettings env invocation.configPath).run.run w).1 with
    | .error _ => code = failureCode ∧ d = w.disk
    | .ok (config, _) => invocation.command.Keeps config w code d

/-- A command that is carried out in a world of the same base. -/
theorem runCommand_keeps {v : World} (h : w.disk.IsTree) (hbase : v.base = w.base) (config : Config)
    (command : Command) :
    command.Keeps config w (exitCode ((runCommand config command).run.run v).1)
      ((runCommand config command).run.run v).2.disk := by
  have hdisk := World.disk_eq_of_base hbase
  cases command with
  | inspect kotlin java stubs json =>
    unfold runCommand
    rw [Attempt.run_always]
    exact ⟨rfl, (World.disk_eq_of_base ((@looks_runInspect ∅ _ stubs json).base_run v)).trans hdisk⟩
  | pairs json =>
    unfold runCommand
    rw [Attempt.run_always]
    exact ⟨rfl, (World.disk_eq_of_base ((@looks_runPairs ∅ json).base_run v)).trans hdisk⟩
  | generate input builtin output index json =>
    intro e he
    have hlooks := @looks_requestedPairs_univ input builtin config
    have hafter := hlooks.base_run v
    have hresult := hlooks.run_congr hdisk (World.cwd_eq_of_base hbase)
    rcases hpairs : (requestedPairs input builtin config).run.run v with ⟨e' | pairs, v'⟩
    · rw [hpairs] at hafter
      have hrun : (runCommand config (.generate input builtin output index json)).run.run v =
          (.error e', v') := Attempt.run_bind_error hpairs
      rw [hrun]
      exact ⟨rfl, (World.disk_eq_of_base hafter).trans hdisk⟩
    · rw [hpairs, he] at hresult
      cases hresult
  | index output indexFile json =>
    have hrebuilt := rebuildIndex_run (w := v) (hdisk ▸ h) (output.getD config.outputDir)
      (indexFile.getD config.indexFile)
    unfold runCommand runIndex
    dsimp only
    rcases hrun : (rebuildIndex (output.getD config.outputDir)
      (indexFile.getD config.indexFile)).run.run v with ⟨e | made, v'⟩
    · have huntouched := (hrun ▸ hrebuilt).untouched e rfl |>.disk
      rw [World.cwd_eq_of_base hbase, hdisk] at huntouched
      rw [Attempt.run_bind_error hrun]
      exact Or.inr ⟨rfl, huntouched⟩
    · have hchanges := (hrun ▸ hrebuilt).edits.disk
      rw [World.cwd_eq_of_base hbase, hdisk] at hchanges
      rw [Attempt.run_bind_ok hrun]
      refine Or.inl ⟨by cases json <;> rfl, ?_⟩
      cases json <;> exact hchanges

/-- A world with an index from before and no directory that it could be made from. -/
def worldWithIndex : World :=
  .start ⟨[(["work"], .directory),
    (["work", "mapped-types-index.yaml"], .file "mappings: []\n".toUTF8)]⟩ ["work"]

end TwinTypes
