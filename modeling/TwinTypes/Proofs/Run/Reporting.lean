import TwinTypes.Proofs.Run.Concealing

/-!
# What is reported changes nothing else

How events are reported is a matter of the settings and of the environment, and what a command does
is not a matter of how events are reported: `TwinTypes.runArguments_reports` says so of any two runs
that differ in that alone. If the settings differ then so do the bytes of the config file, and the
rest is that no command looks into it (`TwinTypes.conceals_runCommand`) and that what is under the
veil stays there (`TwinTypes.Program.run_veiled`).

The config file must not be one of the files that the command reads. This is asked of all states of
the run, since with links on the disk, or with a directory made on the way, a path may come to lead
somewhere else.
-/

namespace TwinTypes

open CommandLine (Command Invocation)

/-- **Two ways to begin a run that differ in how events are reported**, in two worlds which are the
same but for the bytes of some files. -/
inductive ReportsDiffer (env env' : Environment) (arguments : List String) (w v : World) :
    List Location → Prop
  /-- What differs is in the environment. -/
  | environment : ReportsDiffer env env' arguments w v []
  /-- The settings differ, which are loaded from a file that the command does not read. -/
  | settings {invocation : Invocation} {config : Config} {path : String} {logging : Logging}
      {loc : Location} {bytes : ByteArray}
      (call : Invocation.ofArguments arguments = .ok invocation)
      (load : ((loadSettings env invocation.configPath).run.run w).1 = .ok (config, some path))
      (load' : ((loadSettings env' invocation.configPath).run.run v).1 =
        .ok ({ config with logging := logging }, some path))
      (place : w.disk.resolve w.cwd true path = .ok (.found loc (.file bytes)))
      (apart : ∀ s ∈ (runArguments env arguments).states w,
        ∀ file ∈ invocation.command.mayRead config, s.disk.Averts [loc] s.cwd file) :
      ReportsDiffer env env' arguments w v [loc]

/-- **Two runs end alike**: with the same exit code and the same words on the standard output, and
with the same disk but for the bytes of some files. -/
structure EndAlike (hidden : List Location) (result result' : Nat × World) : Prop where
  /-- The exit code is the same. -/
  code : result'.1 = result.1
  /-- The standard output is the same. -/
  out : result'.2.out = result.2.out
  /-- The disk is the same but for the bytes of some files. -/
  disk : result'.2.disk.veiled hidden = result.2.disk.veiled hidden

section Runs

variable {env env' : Environment} {arguments : List String} {hidden : List Location} {v w : World}
  {invocation : Invocation} {config config' : Config} {file file' : Option String}

/-- How events are reported takes no part in a command. -/
theorem runCommand_logging (config : Config) (logging : Logging) (command : Command) :
    runCommand { config with logging := logging } command = runCommand config command := by
  cases command <;> rfl

/-- Which settings are loaded does not depend on what the environment says of reports. -/
theorem loadSettings_environment (henv : env'.configPath = env.configPath)
    (path : Option String) : loadSettings env' path = loadSettings env path := by
  cases path with
  | some path => rfl
  | none =>
    unfold loadSettings loadForRoot discoverConfig
    rw [henv]

/-- **A run that spares files** ends alike in worlds that are the same but for their bytes. -/
theorem endAlike_of_spares {p : Program Nat} (hp : p.Spares hidden w)
    (hsame : v.veiled hidden = w.veiled hidden) (hout : v.out = w.out) :
    EndAlike hidden (p.run w) (p.run v) := by
  obtain ⟨hresult, hend, text, hv, hw⟩ := Program.run_veiled hp hsame
  refine ⟨hresult, ?_, World.disk_eq_of_veiled hend⟩
  rw [hv, hw, hout]

/-- What has become of an invocation decides how the whole run ends. -/
theorem endAlike_of_called (hcall : Invocation.ofArguments arguments = .ok invocation)
    (hresult : ((runInvocation env' invocation).run.run v).1 =
      ((runInvocation env invocation).run.run w).1)
    (hout : ((runInvocation env' invocation).run.run v).2.out =
      ((runInvocation env invocation).run.run w).2.out)
    (hdisk : ((runInvocation env' invocation).run.run v).2.disk.veiled hidden =
      ((runInvocation env invocation).run.run w).2.disk.veiled hidden) :
    EndAlike hidden ((runArguments env arguments).run w) ((runArguments env' arguments).run v) := by
  obtain ⟨err, hrun⟩ := @runArguments_called env invocation w arguments hcall
  obtain ⟨err', hrun'⟩ := @runArguments_called env' invocation v arguments hcall
  rw [hrun, hrun']
  exact ⟨congrArg exitCode hresult, hout, hdisk⟩

/-- **Runs under settings that agree on the command** end alike. -/
theorem endAlike_of_loaded (hcall : Invocation.ofArguments arguments = .ok invocation)
    (hload : ((loadSettings env invocation.configPath).run.run w).1 = .ok (config, file))
    (hload' : ((loadSettings env' invocation.configPath).run.run v).1 = .ok (config', file'))
    (hcommand : runCommand config' invocation.command = runCommand config invocation.command)
    (hfiles : w.disk.HasFiles hidden)
    (hapart : ∀ s ∈ (runArguments env arguments).states w,
      ∀ path ∈ invocation.command.mayRead config, s.disk.Averts hidden s.cwd path)
    (hsame : v.veiled hidden = w.veiled hidden) (hout : v.out = w.out) :
    EndAlike hidden ((runArguments env arguments).run w) ((runArguments env' arguments).run v) := by
  obtain ⟨w₁, hbase, hseen, hrun, hstates⟩ := runInvocation_loaded hload
  obtain ⟨v₁, hbase', hseen', hrun', -⟩ := runInvocation_loaded hload'
  have hspares : (runCommand config invocation.command).run.Spares hidden w₁ := by
    refine (conceals_runCommand config invocation.command).spares w₁ ?_ fun s hs => hapart s ?_
    · rwa [World.disk_eq_of_base hbase]
    · unfold runArguments
      rw [hcall]
      exact Program.mem_states_bind.mpr (Or.inl (hstates s hs))
  have hsame₁ : v₁.veiled hidden = w₁.veiled hidden := by
    rw [World.veiled_eq_of_base hbase', World.veiled_eq_of_base hbase, hsame]
  have hout₁ : v₁.out = w₁.out := by
    have hw := congrArg Prod.snd hseen
    have hv := congrArg Prod.snd hseen'
    exact hv.trans (hout.trans hw.symm)
  obtain ⟨hresult, hend, text, hv, hw⟩ := Program.run_veiled hspares hsame₁
  rw [← hcommand] at hresult hend hv
  refine endAlike_of_called hcall ?_ ?_ ?_
  · rw [hrun, hrun', hresult, hcommand]
  · rw [hrun, hrun', hv, hw, hout₁]
  · rw [hrun, hrun', World.disk_eq_of_veiled hend, hcommand]

end Runs

/-- A world with a config file, and a mapped-types document that names no pair. -/
def worldWithConfig (config : String) : World :=
  .start ⟨[(["work"], .directory), (["work", "ktmap.toml"], .file config.toUTF8),
    (["work", "mapped-types.yaml"], .file "[]".toUTF8)]⟩ ["work"]

/-- A config file that says nothing of reports. -/
def plainConfig : String :=
  "output_dir = \"out\"\n"

/-- The same with a level that cannot be understood. -/
def oddConfig : String :=
  "output_dir = \"out\"\n[logging]\nlevel = \"=?,\"\njson = true\n"

end TwinTypes
