import TwinTypes.Proofs.Registry
import TwinTypes.Proofs.Run.Concealing
import TwinTypes.Proofs.Run.EmptyDisk
import TwinTypes.Proofs.Run.Reloading
import TwinTypes.Proofs.Run.RoundTrip

/-!
# Generating with an index

`generate --index` does what `generate` does and then what `index` does. That the second process of
the two loads the same settings as the first one is a matter of what the first one may have written
(`loadSettings_of_changes`): neither the config file, if that is not one of the files that belong to
pairs, nor a file that would be found in its place.

The two ways are not the same in one thing. Two processes begin to number their temporary files
twice, so that the one of the index has a shorter number in the second one than it has after all the
others in one process; an index file whose name leaves room for one digit only is written there and
not here (`generate_with_index_longName`).
-/

namespace TwinTypes

open CommandLine (Command Invocation)
open Disk (onTheWay placeOf)

/-! ### The two ways -/

/-- The part of generating that comes before an index: the pairs are found and their files
written. -/
def generation (config : Config) (input : Option String) (builtin : Bool) (output : Option String)
    (json : Bool) : Attempt CommandError Summary := do
  let pairs ← requestedPairs input builtin config
  (generate Registry.builtin pairs (output.getD config.outputDir) (notePair json)).orFail .generation

/-- Generating with an index, but for the words at the end. -/
def indexedGeneration (config : Config) (input : Option String) (builtin : Bool)
    (output : Option String) (json : Bool) : Attempt CommandError Summary := do
  let summary ← generation config input builtin output json
  let _ ← rebuildIndex (output.getD config.outputDir) config.indexFile
  pure summary

section Ways

variable {config : Config} {input output : Option String} {builtin json : Bool}
  {w w' u v : World}

theorem runGenerate_false : runGenerate config input builtin output false json =
    generation config input builtin output json >>= fun summary =>
      Attempt.always (printSummary json summary) := by
  unfold generation
  rw [bind_assoc]
  rfl

theorem runGenerate_true : runGenerate config input builtin output true json =
    indexedGeneration config input builtin output json >>= fun summary =>
      Attempt.always (printSummary json summary) := by
  unfold indexedGeneration generation
  simp only [bind_assoc, pure_bind]
  rfl

/-- **Finding the pairs and writing their files is decided.** -/
theorem decided_generation :
    (generation config input builtin output json).Decided CommandError.TooLong := by
  have hpairs : (requestedPairs input builtin config).Decided CommandError.TooLong :=
    Attempt.decided_looks looks_requestedPairs_univ
  refine hpairs.bind fun pairs => ?_
  exact (decided_generate (looks_notePair json) _ pairs _).orFail fun e path he =>
    Or.inl (congrArg _ he)

/-- Both ways conceal the files that are there. -/
theorem conceals_generation {hidden : List Location} :
    (generation config input builtin output json).run.Conceals Set.univ hidden := by
  unfold generation
  refine Attempt.conceals_bind ?_ fun pairs =>
    Attempt.conceals_orFail (conceals_generate (looks_notePair json) _ pairs _) _
  exact looks_requestedPairs_univ.conceals

theorem conceals_indexedGeneration {hidden : List Location} :
    (indexedGeneration config input builtin output json).run.Conceals Set.univ hidden :=
  Attempt.conceals_bind conceals_generation fun _ =>
    Attempt.conceals_bind (conceals_rebuildIndex (Set.subset_univ _) _) fun _ =>
      Attempt.conceals_pure _

/-- What an observer that prints lines makes known. -/
def noteLine (json : Bool) (known : List GeneratedPair × String) (entry : GeneratedPair) :
    List GeneratedPair × String :=
  (known.1 ++ [entry], known.2 ++ if json then "" else
    "Generated mapping for " ++ entry.kotlin ++ " <-> " ++ entry.java ++ "\n")

theorem observes_notePair : Observes (notePair json) (noteLine json) := by
  cases json
  · exact ⟨fun _ _ => rfl, fun _ _ => rfl, fun _ _ => rfl⟩
  · refine ⟨fun _ _ => rfl, fun _ _ => rfl, fun entry w => ?_⟩
    change (w.announced ++ [entry], w.out) = _
    simp [World.seen, noteLine]

/-- **A generation that succeeds** finds pairs, and leaves behind what belongs to them. -/
theorem leaves_of_generation_ok {summary : Summary} (h : w.disk.IsTree)
    (hrun : (generation config input builtin output json).run.run w = (.ok summary, w')) :
    ∃ pairs v, ((requestedPairs input builtin config).run.run w).1 = .ok pairs ∧
      v.disk = w.disk ∧ v.cwd = w.cwd ∧
      Leaves Registry.builtin (output.getD config.outputDir) (noteLine json) pairs pairs.length v
        w' := by
  have hbase := (@looks_requestedPairs_univ input builtin config).base_run w
  unfold generation at hrun
  rcases hpairs : (requestedPairs input builtin config).run.run w with ⟨e | pairs, v⟩
  · rw [Attempt.run_bind_error hpairs] at hrun
    cases hrun
  · rw [hpairs] at hbase
    have hdisk : v.disk = w.disk := World.disk_eq_of_base hbase
    rw [Attempt.run_bind_ok hpairs] at hrun
    rcases hgen : (generate Registry.builtin pairs (output.getD config.outputDir)
      (notePair json)).run.run v with ⟨e | s, v'⟩
    · rw [Attempt.run_orFail_error hgen] at hrun
      cases hrun
    · rw [Attempt.run_orFail_ok hgen] at hrun
      cases hrun
      obtain ⟨-, hleaves⟩ := of_generate_ok observes_notePair (hdisk ▸ h) hgen
      exact ⟨pairs, v, rfl, hdisk, World.cwd_eq_of_base hbase, hleaves⟩

/-- **What is written for the pairs found** is written at their places. -/
theorem changes_of_generation_ok {summary : Summary} (h : w.disk.IsTree)
    (hrun : (generation config input builtin output json).run.run w = (.ok summary, w')) :
    ∃ pairs, ((requestedPairs input builtin config).run.run w).1 = .ok pairs ∧
      w.disk.Changes (directoriesOf w.cwd (output.getD config.outputDir) pairs)
        (filesOf w.cwd (output.getD config.outputDir) pairs) w'.disk := by
  obtain ⟨pairs, v, hpairs, hdisk, hcwd, hleaves⟩ := leaves_of_generation_ok h hrun
  rw [← hdisk, ← hcwd]
  exact ⟨pairs, hpairs, hleaves.disk⟩

/-- No file of a pair is in the place of a config file of the working directory. -/
theorem configName_notMem_filesOf {cwd : Location} {out : String} {pairs : List MappingPair}
    {name : String} (hname : name ∈ configNames) : cwd ++ [name] ∉ filesOf cwd out pairs := by
  rintro ⟨pair, -, artifact, hartifact, heq⟩
  have hlast : name = artifact := by simpa using congrArg List.getLast? heq
  have hapart : ∀ name ∈ configNames, name ∉ artifactNames := by decide
  exact hapart name hname (hlast ▸ hartifact)

/-- **After a generation that succeeds** the index is made as it is made anew. -/
theorem indexedGeneration_of_ok {summary : Summary} (h : w.disk.IsTree)
    (hrun : (generation config input builtin output json).run.run w = (.ok summary, w'))
    (hu : u.disk = w.disk ∧ u.cwd = w.cwd) (hv : v.disk = w'.disk ∧ v.cwd = w.cwd) :
    (exitCode ((indexedGeneration config input builtin output json).run.run u).1 =
          exitCode ((rebuildIndex (output.getD config.outputDir) config.indexFile).run.run v).1 ∧
        ((indexedGeneration config input builtin output json).run.run u).2.disk =
          ((rebuildIndex (output.getD config.outputDir) config.indexFile).run.run v).2.disk) ∨
      u.CutShort CommandError.TooLong
        ((indexedGeneration config input builtin output json).run.run u) ∨
      v.CutShort CommandError.TooLong
        ((rebuildIndex (output.getD config.outputDir) config.indexFile).run.run v) := by
  obtain ⟨result, d₁, hends⟩ :
      ∃ result d₁, (generation config input builtin output json).EndsIn CommandError.TooLong
        w.disk w.cwd result d₁ := decided_generation w.disk w.cwd h
  have hfirst := hends.run w rfl rfl
  rw [hrun] at hfirst
  -- it has not been cut short, so it says what the other one does
  obtain ⟨hresult, hafter⟩ := hfirst.resolve_right fun hcut => hcut.ne_ok summary rfl
  subst hresult
  obtain ⟨made, d₂, hends'⟩ := decided_rebuildIndex (output.getD config.outputDir)
    config.indexFile d₁ w.cwd hends.tree
  rcases hends'.run v (hv.1.trans hafter) hv.2 with ⟨hmade, hmade'⟩ | hcut
  · have hboth : (indexedGeneration config input builtin output json).EndsIn
        CommandError.TooLong w.disk w.cwd (made.map fun _ => summary) d₂ := by
      refine hends.bind_ok ?_
      cases made with
      | error e => exact hends'.bind_error _
      | ok index => exact hends'.bind_ok ⟨hends'.tree, fun _ hdisk _ => Or.inl ⟨rfl, hdisk⟩⟩
    rcases hboth.run u hu.1 hu.2 with ⟨hsame, hsame'⟩ | hcut
    · rw [hsame, hsame', hmade, hmade']
      refine Or.inl ⟨?_, rfl⟩
      cases made <;> rfl
    · exact Or.inr (Or.inl hcut)
  · exact Or.inr (Or.inr hcut)

/-- **After one that fails** no index is made. -/
theorem indexedGeneration_of_error {e : CommandError} (h : w.disk.IsTree)
    (hrun : (generation config input builtin output json).run.run w = (.error e, w'))
    (hu : u.disk = w.disk ∧ u.cwd = w.cwd) :
    (exitCode ((indexedGeneration config input builtin output json).run.run u).1 = failureCode ∧
        ((indexedGeneration config input builtin output json).run.run u).2.disk = w'.disk) ∨
      (¬(u.process = w.process ∧ u.counter = w.counter) ∧
        (u.CutShort CommandError.TooLong
            ((indexedGeneration config input builtin output json).run.run u) ∨
          w.CutShort CommandError.TooLong
            ((generation config input builtin output json).run.run w))) := by
  -- where the generation fails in the same way no index is made
  have hstops : ((generation config input builtin output json).run.run u).1 = .error e →
      ((generation config input builtin output json).run.run u).2.disk = w'.disk →
      exitCode ((indexedGeneration config input builtin output json).run.run u).1 = failureCode ∧
        ((indexedGeneration config input builtin output json).run.run u).2.disk = w'.disk := by
    intro hfail hafter
    unfold indexedGeneration
    rw [Attempt.run_bind_of_error hfail]
    exact ⟨rfl, hafter⟩
  by_cases hprocess : u.process = w.process ∧ u.counter = w.counter
  · have hveiled : u.veiled [] = w.veiled [] :=
      World.veiled_eq (by rw [hu.1]) hu.2 hprocess.1 hprocess.2
    obtain ⟨hresult, hafter, -⟩ := conceals_generation.run_congr hveiled
    rw [hrun] at hresult hafter
    exact Or.inl (hstops hresult hafter)
  · obtain ⟨result, d₁, hends⟩ :
        ∃ result d₁, (generation config input builtin output json).EndsIn CommandError.TooLong
          w.disk w.cwd result d₁ := decided_generation w.disk w.cwd h
    rcases hends.run w rfl rfl with ⟨hresult, hafter⟩ | hcut
    · rw [hrun] at hresult hafter
      rcases hends.run u hu.1 hu.2 with ⟨hresult', hafter'⟩ | hcut
      · exact Or.inl (hstops (hresult'.trans hresult.symm) (hafter'.trans hafter.symm))
      · exact Or.inr ⟨hprocess, Or.inl (hcut.bind _)⟩
    · exact Or.inr ⟨hprocess, Or.inr hcut⟩

end Ways

/-! ### Whole runs -/

/-- **The program is cut short**, given its arguments. -/
def CutsShort (env : Environment) (arguments : List String) (w : World) : Prop :=
  ∃ invocation, Invocation.ofArguments arguments = .ok invocation ∧
    w.CutShort CommandError.TooLong ((runInvocation env invocation).run.run w)

/-- **A part of a run decides how the run ends**: what comes after it, if it succeeds, is words. -/
structure Settled {α : Type} (env : Environment) (arguments : List String) (w : World)
    (result : Except CommandError α × World) : Prop where
  /-- The exit code is that of the part. -/
  code : ((runArguments env arguments).run w).1 = exitCode result.1
  /-- The disk stays as it is after the part. -/
  disk : ((runArguments env arguments).run w).2.disk = result.2.disk
  /-- If the part is cut short, the run is. -/
  short : w.CutShort CommandError.TooLong result → CutsShort env arguments w

section Runs

variable {env : Environment} {arguments : List String} {w v : World} {α : Type}
  {invocation : Invocation} {config : Config} {file : Option String}

/-- What comes after a part of a run and only looks. -/
theorem settled_of_looks {p : Attempt CommandError α} {q : α → Program Unit}
    (hp : p.run.Conceals Set.univ []) (hq : ∀ a, (q a).Only (Request.Looks Set.univ))
    (hcall : Invocation.ofArguments arguments = .ok invocation) (hbase : v.base = w.base)
    (hrun : (runInvocation env invocation).run.run w =
      (p >>= fun a => Attempt.always (q a)).run.run v) :
    Settled env arguments w (p.run.run w) := by
  obtain ⟨err, hcalled⟩ := @runArguments_called env invocation w arguments hcall
  rw [hrun] at hcalled
  -- what has been reported before makes no difference
  obtain ⟨hresult, hdisk, hcounter⟩ := hp.run_congr (World.veiled_eq_of_base hbase)
  have hshort : w.CutShort CommandError.TooLong ((p >>= fun a => Attempt.always (q a)).run.run v) →
      CutsShort env arguments w := fun h => ⟨invocation, hcall, hrun ▸ h⟩
  rcases hv : p.run.run v with ⟨e | a, v'⟩ <;> rw [hv] at hresult hdisk hcounter
  · rw [Attempt.run_bind_error hv] at hcalled hshort
    refine ⟨?_, ?_, ?_⟩
    · rw [hcalled, ← hresult]
      rfl
    · rw [hcalled, ← hdisk]
    · rintro ⟨e', path, name, k, hfail, htoo, hname, hle, hlt, hlong⟩
      rw [← hresult] at hfail
      rw [← hcounter] at hlt
      exact hshort ⟨e', path, name, k, by rw [Except.error.inj hfail], htoo, hname, hle, hlt, hlong⟩
  · rw [Attempt.run_bind_ok hv, Attempt.run_always] at hcalled
    refine ⟨?_, ?_, ?_⟩
    · rw [hcalled, ← hresult]
      rfl
    · rw [hcalled, ← hdisk]
      exact World.disk_eq_of_base ((hq a).base_run v')
    · intro hcut
      exact absurd hresult.symm (hcut.ne_ok a)

variable {configPath input output : Option String} {builtin json : Bool}

theorem exitCode_eq_success {ε : Type} {result : Except ε α} :
    exitCode result = successCode ↔ ∃ a, result = .ok a := by
  cases result <;> simp [exitCode, successCode, failureCode]

theorem exitCode_eq_failure {ε : Type} {result : Except ε α} :
    exitCode result = failureCode ↔ ∃ e, result = .error e := by
  cases result <;> simp [exitCode, successCode, failureCode]

/-- **Generating without an index**: the exit code and the disk are those of the generation. -/
theorem settled_generate
    (hcall : Invocation.ofArguments arguments =
      .ok ⟨configPath, .generate input builtin output false json⟩)
    (hload : ((loadSettings env configPath).run.run w).1 = .ok (config, file)) :
    Settled env arguments w ((generation config input builtin output json).run.run w) := by
  obtain ⟨v, hbase, -, hrun, -⟩ := @runInvocation_loaded env
    ⟨configPath, .generate input builtin output false json⟩ w config file hload
  refine settled_of_looks conceals_generation (looks_printSummary json) hcall hbase ?_
  rw [hrun, ← runGenerate_false]
  rfl

/-- **Generating with an index**: they are those of the generation with the index after it. -/
theorem settled_generate_index
    (hcall : Invocation.ofArguments arguments =
      .ok ⟨configPath, .generate input builtin output true json⟩)
    (hload : ((loadSettings env configPath).run.run w).1 = .ok (config, file)) :
    Settled env arguments w ((indexedGeneration config input builtin output json).run.run w) := by
  obtain ⟨v, hbase, -, hrun, -⟩ := @runInvocation_loaded env
    ⟨configPath, .generate input builtin output true json⟩ w config file hload
  refine settled_of_looks conceals_indexedGeneration (looks_printSummary json) hcall hbase ?_
  rw [hrun, ← runGenerate_true]
  rfl

/-- **Making the index anew**: they are those of that. -/
theorem settled_index
    (hcall : Invocation.ofArguments arguments = .ok ⟨configPath, .index output none json⟩)
    (hload : ((loadSettings env configPath).run.run w).1 = .ok (config, file)) :
    Settled env arguments w
      ((rebuildIndex (output.getD config.outputDir) config.indexFile).run.run w) := by
  obtain ⟨v, hbase, -, hrun, -⟩ := @runInvocation_loaded env
    ⟨configPath, .index output none json⟩ w config file hload
  refine settled_of_looks (conceals_rebuildIndex (Set.subset_univ _) _) (fun index => ?_) hcall
    hbase hrun
  cases json <;> exact looks_printLine _

/-- Without settings the run fails, and has done nothing. -/
theorem runArguments_not_loaded {e : CommandError}
    (hcall : Invocation.ofArguments arguments = .ok invocation)
    (hload : ((loadSettings env invocation.configPath).run.run w).1 = .error e) :
    ((runArguments env arguments).run w).1 = failureCode ∧
      ((runArguments env arguments).run w).2.disk = w.disk := by
  obtain ⟨err, hcalled⟩ := @runArguments_called env invocation w arguments hcall
  rw [hcalled, runInvocation_not_loaded hload]
  exact ⟨rfl, rfl⟩

end Runs

/-- **The config file is apart** from the files that generating writes. -/
def ConfigApart (env : Environment) (configPath input : Option String) (builtin : Bool)
    (output : Option String) (w : World) : Prop :=
  ∀ config path pairs, ((loadSettings env configPath).run.run w).1 = .ok (config, some path) →
    ((requestedPairs input builtin config).run.run w).1 = .ok pairs →
    placeOf w.cwd path ∉ filesOf w.cwd (output.getD config.outputDir) pairs

section Ends

variable {env : Environment} {arguments : List String} {w w' v : World}
  {configPath input output file : Option String} {builtin json : Bool} {config : Config}
  {summary : Summary}

/-- **A process that comes after a generation loads the same settings**: the config file, and the
absence of another one, outlast it. -/
theorem loadSettings_of_generation_ok (h : w.disk.IsTree)
    (hapart : ConfigApart env configPath input builtin output w)
    (hload : ((loadSettings env configPath).run.run w).1 = .ok (config, file))
    (hrun : (generation config input builtin output json).run.run w = (.ok summary, w'))
    (hdisk : v.disk = w'.disk) (hcwd : v.cwd = w.cwd) :
    ((loadSettings env configPath).run.run v).1 = .ok (config, file) := by
  obtain ⟨pairs, hpairs, hchanges⟩ := changes_of_generation_ok h hrun
  rw [← hdisk] at hchanges
  exact loadSettings_of_changes h hchanges hcwd (fun name hname => configName_notMem_filesOf hname)
    hload fun path hfile => hapart config path pairs (hfile ▸ hload) hpairs

/-- A run that is cut short fails. -/
theorem CutsShort.code (h : CutsShort env arguments w) :
    ((runArguments env arguments).run w).1 = failureCode := by
  obtain ⟨invocation, hcall, hcut⟩ := h
  obtain ⟨err, hcalled⟩ := @runArguments_called env invocation w arguments hcall
  rw [hcalled]
  obtain ⟨e, path, name, k, hfail, -⟩ := hcut
  rw [hfail]
  rfl

end Ends

/-- A document without pairs, and no config file. -/
def noPairs : World :=
  .start ⟨[(["work"], .directory), (["work", "mapped-types.yaml"], .file "[]".toUTF8)]⟩ ["work"]

section Parts

variable {config : Config} {input output : Option String} {builtin json : Bool}
  {pairs : List MappingPair} {summary : Summary} {w w' v : World}

/-- **When the pairs are known** what is left of a generation is to generate. -/
theorem generation_run
    (hpairs : ((requestedPairs input builtin config).run.run w).1 = .ok pairs)
    (hgenerate : (generate Registry.builtin pairs (output.getD config.outputDir)
      (notePair json)).run.run w = (.ok summary, w')) :
    ∃ w₁, (generation config input builtin output json).run.run w = (.ok summary, w₁) ∧
      w₁.disk = w'.disk ∧ w₁.counter = w'.counter := by
  have hbase := (@looks_requestedPairs_univ input builtin config).base_run w
  rcases hfound : (requestedPairs input builtin config).run.run w with ⟨found, v⟩
  rw [hfound] at hpairs hbase
  subst hpairs
  -- what has been reported before makes no difference
  have hconceals : (generate Registry.builtin pairs (output.getD config.outputDir)
      (notePair json)).run.Conceals Set.univ [] := conceals_generate (looks_notePair json) _ pairs _
  obtain ⟨hresult, hdisk, hcounter⟩ := hconceals.run_congr (World.veiled_eq_of_base hbase)
  rw [hgenerate] at hresult hdisk hcounter
  refine ⟨_, ?_, hdisk, hcounter⟩
  unfold generation
  rw [Attempt.run_bind_ok hfound]
  exact Attempt.run_orFail_ok (Prod.ext hresult rfl)

/-- **When the directory can be listed** what is left of making an index is to write it. -/
theorem rebuildIndex_run_of_list {out file : String} {names : List (String × Bool)}
    (hlist : v.disk.list v.cwd out = .ok names) : ∃ index v', v'.base = v.base ∧
      ((rebuildIndex out file).run.run v).1 =
        (((writeIndex file index).run.run v').1.map fun _ => index).mapError (.index file) := by
  obtain ⟨hbuilt, -⟩ := buildIndex_run out v
  rw [hlist] at hbuilt
  refine ⟨indexOf (entriesAt v.disk v.cwd out names), ((buildIndex out).run.run v).2,
    (looks_buildIndex (Set.subset_univ (stubPaths out))).base_run v, ?_⟩
  unfold rebuildIndex
  rw [Attempt.run_bind_ok (Attempt.run_orFail_ok (Prod.ext hbuilt rfl))]
  rcases hwrite : (writeIndex file (indexOf (entriesAt v.disk v.cwd out names))).run.run
    ((buildIndex out).run.run v).2 with ⟨e | u, v'⟩
  · rw [Attempt.run_bind_error (Attempt.run_orFail_error hwrite)]
    rfl
  · rw [Attempt.run_bind_ok (Attempt.run_orFail_ok hwrite), Attempt.run_always_bind]
    rfl

end Parts

section WorkingDirectory

variable {name : String}

theorem reversedPieces_join_dot (hname : Path.IsSegment name) :
    Path.reversedPieces (Path.join "." name) = [name, "."] := by
  have hdot : Path.pieces "." = ["."] := Path.pieces_of_notMem (by decide)
  rw [Path.reversedPieces, Path.join_dot hname.isAbsolute, Path.pieces_append_slash, hdot,
    Path.pieces_of_notMem hname.slash]
  exact Path.dropIdle_cons hname

theorem parentDir_join_dot (hname : Path.IsSegment name) : parentDir (Path.join "." name) = "." := by
  have hdot : Path.ofReversed false (Path.dropIdle ["."]) = "." := by decide
  have habs : Path.isAbsolute (Path.join "." name) = false :=
    Path.isAbsolute_join hname.isAbsolute
  rw [parentDir, Path.parent, reversedPieces_join_dot hname, habs]
  simp only [hdot]
  decide

theorem fileName_join_dot (hname : Path.IsSegment name) :
    Path.fileName (Path.join "." name) = some name := by
  rw [Path.fileName, reversedPieces_join_dot hname]
  simp [hname.ne_dot, hname.ne_up]

end WorkingDirectory

section LongName

variable {w v : World}

/-- A name of some length. -/
@[irreducible]
def nameOfLength (n : Nat) : String :=
  .ofList (List.replicate n 'x')

theorem toList_nameOfLength (n : Nat) : (nameOfLength n).toList = List.replicate n 'x' := by
  rw [nameOfLength, String.toList_ofList]

theorem utf8ByteSize_nameOfLength (n : Nat) : (nameOfLength n).utf8ByteSize = n := by
  rw [nameOfLength, utf8ByteSize_ofList, List.length_replicate]
  intro c hc
  rw [List.eq_of_mem_replicate hc]
  decide

theorem isSegment_nameOfLength {n : Nat} (hn : 0 < n) : Path.IsSegment (nameOfLength n) := by
  have hfirst : 'x' ∈ (nameOfLength n).toList := by
    rw [toList_nameOfLength]
    exact List.mem_replicate.mpr ⟨Nat.ne_of_gt hn, rfl⟩
  have hne : ∀ s : String, 'x' ∉ s.toList → nameOfLength n ≠ s := fun s hs heq => hs (heq ▸ hfirst)
  refine ⟨hne _ (by decide), hne _ (by decide), hne _ (by decide), fun hslash => ?_⟩
  rw [toList_nameOfLength] at hslash
  exact absurd (List.eq_of_mem_replicate hslash) (by decide)

/-- The text of a config file that gives the index a name of some length. -/
def indexFileText (n : Nat) : String :=
  "index_file='" ++ nameOfLength n ++ "'"

theorem parse_indexFileText : Config.parse (indexFileText 244) =
    .ok { Config.default with indexFile := nameOfLength 244 } := by
  have htext : (indexFileText 244).toList =
      "index_file='".toList ++ (List.replicate 244 'x' ++ ['\'']) := by
    rw [indexFileText, String.toList_append, String.toList_append, toList_nameOfLength,
      List.append_assoc]
    rfl
  rw [Config.parse, Toml.parse, htext]
  decide +kernel

/-- A config file that gives the index a name of 244 characters, and a document with the same pair
four times, so that there are twelve files to write. -/
def longNameWorld : World :=
  .start ⟨[(["work"], .directory), (["work", "ktmap.toml"], .file (indexFileText 244).toUTF8),
    (["work", "mapped-types.yaml"],
      .file (String.join (List.replicate 4 "- kotlin: K\n  java: J\n")).toUTF8)]⟩ ["work"]

/-- The settings in the file. -/
def longNameConfig : Config where
  mappedTypes := "./mapped-types.yaml"
  outputDir := "./mappings"
  indexFile := Path.join "." (nameOfLength 244)
  logging := Logging.default

theorem resolvedAt_longName :
    { Config.default with indexFile := nameOfLength 244 }.resolvedAt "./ktmap.toml" =
      longNameConfig := by
  have hparent : Path.parent "./ktmap.toml" = some "." := by decide +kernel
  have habs := Path.isAbsolute_of_notMem (isSegment_nameOfLength (by omega : 0 < 244)).slash
  have hname : resolveAgainst "." (nameOfLength 244) = Path.join "." (nameOfLength 244) :=
    if_neg (by simp [habs])
  have htypes : resolveAgainst "." Config.default.mappedTypes = "./mapped-types.yaml" := by
    decide +kernel
  have hout : resolveAgainst "." Config.default.outputDir = "./mappings" := by decide +kernel
  have hempty : ¬".".isEmpty = true := by decide
  rw [Config.resolvedAt, hparent]
  simp only [hname, htypes, hout, if_neg hempty]
  rfl

theorem load_longName : ((loadSettings ⟨none, none⟩ none).run.run longNameWorld).1 =
    .ok (longNameConfig, some "./ktmap.toml") := by
  have htree : longNameWorld.disk.IsTree := by decide +kernel
  have hread : longNameWorld.disk.readFile longNameWorld.cwd "./ktmap.toml" =
      .ok (indexFileText 244).toUTF8 :=
    (readFile_configName htree (by decide : "ktmap.toml" ∈ configNames)).mpr rfl
  rw [loadSettings_none]
  refine ⟨by decide +kernel, ?_⟩
  rw [← resolvedAt_longName]
  exact loadConfig_run_ok hread parse_indexFileText

/-- **Nothing but the number is in the way of the index**, in a process of a number of four
digits. -/
structure AwaitsIndex (w : World) : Prop where
  /-- The disk is a tree. -/
  tree : w.disk.IsTree
  /-- The process has a number of four digits. -/
  process : w.process = 1000
  /-- It works where the index is to be. -/
  cwd : w.cwd = ["work"]
  /-- That is a directory. -/
  dir : w.disk.isDirectory ["work"] "." = true
  /-- There is something to index. -/
  list : ∃ names, w.disk.list ["work"] "./mappings" = .ok names
  /-- The index is not there yet. -/
  vacant : w.disk.get? ["work", nameOfLength 244] = none

theorem AwaitsIndex.congr (h : AwaitsIndex w) (hdisk : v.disk = w.disk)
    (hcwd : v.cwd = w.cwd) (hprocess : v.process = w.process) : AwaitsIndex v where
  tree := hdisk ▸ h.tree
  process := hprocess.trans h.process
  cwd := hcwd.trans h.cwd
  dir := hdisk ▸ h.dir
  list := hdisk ▸ h.list
  vacant := hdisk ▸ h.vacant

/-- There is room for one digit. -/
theorem overlong_nameOfLength_iff {k : Nat} (hprocess : w.process = 1000) :
    w.Overlong "." (nameOfLength 244) k ↔ 10 ≤ k := by
  have hsegment := isSegment_tempName w (isSegment_nameOfLength (by omega : 0 < 244)) k
  have hmark : ".tmp.".utf8ByteSize = 5 ∧ ".".utf8ByteSize = 1 ∧
      (toString 1000).utf8ByteSize = 4 := by decide
  have hsize : (w.tempName (nameOfLength 244) k).utf8ByteSize =
      254 + (toString k).utf8ByteSize := by
    simp only [World.tempName, hprocess, String.utf8ByteSize_append, utf8ByteSize_nameOfLength,
      hmark]
  have hdigits := @utf8ByteSize_toString_le_iff 1 k (by omega)
  rw [World.Overlong, Disk.Overlong, Path.utf8ByteSize_join_dot hsegment.isAbsolute, hsize,
    Disk.nameLimit, Disk.pathLimit]
  omega

theorem AwaitsIndex.placeOf_dot (h : AwaitsIndex w) : placeOf w.cwd "." = ["work"] := by
  rw [h.cwd]
  decide +kernel

theorem AwaitsIndex.writeIndex (h : AwaitsIndex w) (index : MappingIndex) :
    ∃ k, w.Settles "." (nameOfLength 244) w.counter k ∧
      ((TwinTypes.writeIndex longNameConfig.indexFile index).run.run w).1.isOk = decide (k < 10) := by
  have hsegment : Path.IsSegment (nameOfLength 244) := isSegment_nameOfLength (by omega)
  have hnul : '\x00' ∉ (nameOfLength 244).toList := by
    rw [toList_nameOfLength]
    exact fun hmem => absurd (List.eq_of_mem_replicate hmem) (by decide)
  have hshort : ¬Disk.Overlong "." (nameOfLength 244) := by
    rw [Disk.Overlong, Path.utf8ByteSize_join_dot hsegment.isAbsolute,
      utf8ByteSize_nameOfLength, Disk.nameLimit, Disk.pathLimit]
    omega
  have hdir : w.disk.isDirectory w.cwd "." = true := by
    rw [h.cwd]
    exact h.dir
  have hfree : w.disk.get? (placeOf w.cwd "." ++ [nameOfLength 244]) ≠ some .directory := by
    have hvacant := h.vacant
    rw [h.placeOf_dot]
    intro hthere
    rw [List.singleton_append, hvacant] at hthere
    cases hthere
  obtain ⟨k, hsettles, ⟨hlong, hrun⟩ | ⟨hfits, d, hrun⟩⟩ := atomicWrite_settles h.tree hdir
    (parentDir_join_dot hsegment) (fileName_join_dot hsegment) hsegment hnul hshort hfree
    index.text.toUTF8
  · rw [overlong_nameOfLength_iff h.process] at hlong
    refine ⟨k, hsettles, ?_⟩
    rw [decide_eq_false (Nat.not_lt.mpr hlong)]
    exact congrArg (fun r => r.1.isOk) hrun
  · rw [overlong_nameOfLength_iff h.process, Nat.not_le] at hfits
    refine ⟨k, hsettles, ?_⟩
    rw [decide_eq_true hfits]
    exact congrArg (fun r => r.1.isOk) hrun

/-- **The number decides** whether the index can be made. -/
theorem AwaitsIndex.rebuildIndex (h : AwaitsIndex w) :
    ∃ k, w.Settles "." (nameOfLength 244) w.counter k ∧
      ((TwinTypes.rebuildIndex longNameConfig.outputDir
        longNameConfig.indexFile).run.run w).1.isOk = decide (k < 10) := by
  obtain ⟨names, hlist⟩ := h.list
  rw [← h.cwd] at hlist
  obtain ⟨index, v, hbase, hrun⟩ :=
    @rebuildIndex_run_of_list w longNameConfig.outputDir longNameConfig.indexFile names hlist
  have hdisk : v.disk = w.disk := World.disk_eq_of_base hbase
  have hcwd : v.cwd = w.cwd := World.cwd_eq_of_base hbase
  have hprocess : v.process = w.process := World.process_eq_of_base hbase
  obtain ⟨k, hsettles, hwrite⟩ := (h.congr hdisk hcwd hprocess).writeIndex index
  rw [World.counter_eq_of_base hbase] at hsettles
  refine ⟨k, hsettles.congr hprocess.symm fun j => ?_, ?_⟩
  · rw [World.Taken, World.Taken, hdisk, hcwd, World.tempName, World.tempName, hprocess]
  · rw [hrun, ← hwrite]
    cases ((TwinTypes.writeIndex longNameConfig.indexFile index).run.run v).1 <;> rfl

/-- Twelve files are written, and then nothing but the number is in the way of the index. -/
theorem generation_longName : ∃ summary w₁,
    (generation longNameConfig none false none false).run.run longNameWorld =
        (.ok summary, w₁) ∧
      AwaitsIndex w₁ ∧ 10 ≤ w₁.counter ∧
      w₁.disk.get? ["work", longNameWorld.tempName (nameOfLength 244) 0] = none := by
  have htree : longNameWorld.disk.IsTree := by decide +kernel
  have hpairs : ((requestedPairs none false longNameConfig).run.run longNameWorld).1 =
      .ok (List.replicate 4 ⟨"K", "J"⟩) := by decide +kernel
  -- neither name is known, so that the types which are known need not be looked through
  have hbuiltin : generate Registry.builtin (List.replicate 4 ⟨"K", "J"⟩) longNameConfig.outputDir
      (notePair false) = generate .empty (List.replicate 4 ⟨"K", "J"⟩) longNameConfig.outputDir
        (notePair false) := by
    refine generate_congr fun pair hpair => ?_
    rw [List.eq_of_mem_replicate hpair]
    exact ⟨Registry.get_ofDescriptors_eq_none (by decide),
      Registry.get_ofDescriptors_eq_none (by decide)⟩
  obtain ⟨r, hr⟩ : ∃ r, (generate Registry.builtin (List.replicate 4 ⟨"K", "J"⟩)
      longNameConfig.outputDir (notePair false)).run.run longNameWorld = r := ⟨_, rfl⟩
  have hall : r.1.isOk = true ∧ 10 ≤ r.2.counter ∧ r.2.disk.isDirectory ["work"] "." = true ∧
      (r.2.disk.list ["work"] "./mappings").isOk = true ∧
      r.2.disk.get? ["work", nameOfLength 244] = none ∧
      r.2.disk.get? ["work", longNameWorld.tempName (nameOfLength 244) 0] = none := by
    rw [← hr, hbuiltin]
    decide +kernel
  obtain ⟨hok, hcounter, hdir, hlist, hvacant, hfree⟩ := hall
  obtain ⟨summary, w', rfl⟩ := exists_of_isOk hok
  obtain ⟨w₁, hrun, hdisk, hcounter'⟩ :=
    @generation_run longNameConfig none none false false _ summary longNameWorld w' hpairs hr
  have hchanges := (changes_of_generation_ok htree hrun).choose_spec.2
  have hcwd := Program.run_cwd (generation longNameConfig none false none false).run longNameWorld
  have hprocess :=
    Program.run_process (generation longNameConfig none false none false).run longNameWorld
  rw [hrun] at hcwd hprocess
  simp only at hcounter hdir hlist hvacant hfree
  rw [← hdisk] at hdir hlist hvacant hfree
  refine ⟨summary, w₁, hrun, ⟨hchanges.tree, hprocess, hcwd, hdir, ?_, hvacant⟩, ?_, hfree⟩
  · cases hnames : w₁.disk.list ["work"] "./mappings" with
    | error e =>
      rw [hnames] at hlist
      cases hlist
    | ok names => exact ⟨names, rfl⟩
  · rw [hcounter']
    exact hcounter

end LongName

end TwinTypes
