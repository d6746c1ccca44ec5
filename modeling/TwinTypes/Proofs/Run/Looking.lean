import TwinTypes.Proofs.Run.States
import TwinTypes.Run.Invoke

/-!
# Programs that only look

Most of what the program does between its arguments and its first change to the disk is looking:
settings are loaded, documents are read, directories are listed, and what happens is reported. That
a program does nothing else can be seen in the program itself, whatever the responses are
(`TwinTypes.Program.Only`), so it is settled here without a world; what follows for worlds is
`TwinTypes.Program.Only.run_reads` for programs that read, and for those that also make something
known `TwinTypes.Program.Only.base_run` and `TwinTypes.Program.Only.run_congr`: they leave the base
of the world as it is, and find what the disk decides, whatever has been made known before.

With it a run of the whole program is a run of its command: `runInvocation_loaded`.
-/

namespace TwinTypes

/-! ### The requests of a program -/

/-- **A program that makes requests of one sort alone**, whatever the responses are. -/
def Program.Only {α : Type} (P : Request → Prop) : Program α → Prop
  | .done _ => True
  | .act r next => P r ∧ ∀ response, (next response).Only P

namespace Program

variable {α β : Type} {P Q : Request → Prop} {p : Program α}

theorem only_pure (a : α) : (pure a : Program α).Only P :=
  trivial

theorem only_request {r : Request} (h : P r) : (request r).Only P :=
  ⟨h, fun _ => trivial⟩

theorem Only.bind {f : α → Program β} (hp : p.Only P) (hf : ∀ a, (f a).Only P) :
    (p >>= f).Only P := by
  induction p with
  | done a => exact hf a
  | act r next ih => exact ⟨hp.1, fun response => ih response (hp.2 response)⟩

theorem Only.mono (hp : p.Only P) (h : ∀ r, P r → Q r) : p.Only Q := by
  induction p with
  | done a => trivial
  | act r next ih => exact ⟨h r hp.1, fun response => ih response (hp.2 response)⟩

end Program

namespace Attempt

variable {ε ε' α β : Type} {P : Request → Prop} {p : Attempt ε α}

theorem only_pure (a : α) : (pure a : Attempt ε α).run.Only P :=
  trivial

theorem only_throw (e : ε) : (throw e : Attempt ε α).run.Only P :=
  trivial

theorem only_bind {f : α → Attempt ε β} (hp : p.run.Only P) (hf : ∀ a, (f a).run.Only P) :
    (p >>= f).run.Only P := by
  rw [ExceptT.run_bind]
  refine hp.bind fun result => ?_
  cases result with
  | ok a => exact hf a
  | error e => exact only_throw e

theorem only_always {p : Program α} (h : p.Only P) : (always p : Attempt ε α).run.Only P :=
  h.bind fun a => only_pure a

theorem only_orFail (h : p.run.Only P) (f : ε → ε') : (p.orFail f).run.Only P :=
  h.bind fun result => by
    cases result with
    | ok a => exact only_pure a
    | error e => exact only_throw (f e)

end Attempt

/-! ### Reading and looking -/

/-- A request that asks for what is on the disk. -/
def Request.Reads : Request → Prop
  | isDirectory _ | isFile _ | readFile _ | list _ => True
  | _ => False

/-- A request that asks for what is on the disk, or makes something known. The bytes of files are
asked for at some paths alone. -/
def Request.Looks (reads : Set String) : Request → Prop
  | makeDir _ | createTemp _ _ | append _ _ | rename _ _ | remove _ => False
  | readFile path => path ∈ reads
  | _ => True

theorem Request.Reads.looks {r : Request} (h : r.Reads) : r.Looks Set.univ := by
  cases r with
  | makeDir | createTemp | append | rename | remove => cases h
  | _ => trivial

/-- **The base of a world**: the world without what has been made known in it. -/
def World.base (w : World) : World :=
  { w with logger := none, announced := [], out := "", err := "" }

namespace World

variable {v w : World}

theorem disk_eq_of_base (h : v.base = w.base) : v.disk = w.disk :=
  (congrArg World.disk h :)

theorem cwd_eq_of_base (h : v.base = w.base) : v.cwd = w.cwd :=
  (congrArg World.cwd h :)

theorem process_eq_of_base (h : v.base = w.base) : v.process = w.process :=
  (congrArg World.process h :)

theorem counter_eq_of_base (h : v.base = w.base) : v.counter = w.counter :=
  (congrArg World.counter h :)

/-- Reading leaves the world as it is. -/
theorem answer_reads {r : Request} (h : r.Reads) (w : World) : (w.answer r).2 = w := by
  cases r <;> first | rfl | cases h

/-- Looking leaves the base of the world as it is. -/
theorem base_answer {reads : Set String} {r : Request} (h : r.Looks reads) (w : World) :
    (w.answer r).2.base = w.base := by
  cases r with
  | makeDir | createTemp | append | rename | remove => cases h
  | _ => rfl

/-- **The disk decides what is seen**, and the directory in which paths begin. -/
theorem answer_congr {reads : Set String} {r : Request} (h : r.Looks reads)
    (hdisk : v.disk = w.disk) (hcwd : v.cwd = w.cwd) :
    (v.answer r).1 = (w.answer r).1 := by
  cases r with
  | makeDir | createTemp | append | rename | remove => cases h
  | isDirectory path | isFile path | readFile path | list path => rw [answer, answer, hdisk, hcwd]
  | sync | startLog | report | announce | print | complain => rfl

end World

theorem Program.run_act {α : Type} (r : Request) (next : r.Response → Program α) (w : World) :
    (act r next).run w = (next (w.answer r).1).run (w.answer r).2 := rfl

namespace Program.Only

variable {α : Type} {p : Program α} {v w : World} {reads : Set String}

/-- **A program that only reads** leaves the world as it is. -/
theorem run_reads (h : p.Only Request.Reads) (w : World) : (p.run w).2 = w := by
  induction p with
  | done a => rfl
  | act r next ih =>
    have hrest := ih (w.answer r).1 (h.2 _)
    rw [run_act, World.answer_reads h.1 w]
    exact hrest

/-- **A program that only looks** leaves the base of the world as it is. -/
theorem base_run (h : p.Only (Request.Looks reads)) (w : World) :
    (p.run w).2.base = w.base := by
  induction p generalizing w with
  | done a => rfl
  | act r next ih =>
    rw [run_act]
    exact (ih (w.answer r).1 (h.2 _) _).trans (World.base_answer h.1 w)

/-- **What it finds is decided by the disk**, and the directory in which paths begin. -/
theorem run_congr (h : p.Only (Request.Looks reads)) (hdisk : v.disk = w.disk)
    (hcwd : v.cwd = w.cwd) :
    (p.run v).1 = (p.run w).1 := by
  induction p generalizing v w with
  | done a => rfl
  | act r next ih =>
    have hv := World.base_answer h.1 v
    have hw := World.base_answer h.1 w
    rw [run_act, run_act, World.answer_congr h.1 hdisk hcwd]
    refine ih (w.answer r).1 (h.2 _) ?_ ?_
    · rw [World.disk_eq_of_base hv, World.disk_eq_of_base hw, hdisk]
    · rw [World.cwd_eq_of_base hv, World.cwd_eq_of_base hw, hcwd]

end Program.Only

/-! ### What only reads -/

theorem reads_readText (path : String) : (readText path).run.Only Request.Reads := by
  refine (Program.only_request (r := .readFile path) trivial).bind fun response => ?_
  rcases response with e | bytes
  · exact Program.only_pure _
  · dsimp only
    split <;> exact Program.only_pure _

theorem reads_loadConfig (path : String) : (loadConfig path).run.Only Request.Reads := by
  refine Attempt.only_bind (Attempt.only_orFail (reads_readText path) _) fun text => ?_
  split
  · exact Attempt.only_pure _
  · exact Attempt.only_throw _

theorem reads_firstFile (paths : List String) : (firstFile paths).Only Request.Reads := by
  induction paths with
  | nil => exact Program.only_pure _
  | cons path rest ih =>
    refine (Program.only_request (r := .isFile path) trivial).bind fun isFile => ?_
    split
    · exact Program.only_pure _
    · exact ih

theorem reads_discoverConfig (env : Environment) (root : String) :
    (discoverConfig env root).Only Request.Reads := by
  unfold discoverConfig
  split
  · exact Program.only_pure _
  · exact reads_firstFile _

theorem reads_loadForRoot (env : Environment) (root : String) :
    (loadForRoot env root).run.Only Request.Reads := by
  refine Attempt.only_bind (Attempt.only_always (reads_discoverConfig env root)) fun path => ?_
  cases path with
  | none => exact Attempt.only_pure _
  | some path =>
    exact Attempt.only_bind (reads_loadConfig path) fun config => Attempt.only_pure _

/-- **Loading the settings only reads.** -/
theorem reads_loadSettings (env : Environment) (path : Option String) :
    (loadSettings env path).run.Only Request.Reads := by
  cases path with
  | none => exact Attempt.only_orFail (reads_loadForRoot env ".") _
  | some path =>
    exact Attempt.only_bind (Attempt.only_orFail (reads_loadConfig path) _)
      fun config => Attempt.only_pure _

/-! ### What only looks -/

/-- The stub files of the directories in a directory. -/
def stubPaths (root : String) : Set String :=
  {path | ∃ name, path = Path.join (Path.join root name) kotlinFile ∨
    path = Path.join (Path.join root name) javaFile}

section Looks

variable {reads : Set String}

theorem looks_report (e : Log.Event) : (report e).Only (Request.Looks reads) :=
  Program.only_request trivial

theorem looks_printLine (text : String) : (printLine text).Only (Request.Looks reads) :=
  Program.only_request trivial

theorem looks_readText {path : String} (h : path ∈ reads) :
    (readText path).run.Only (Request.Looks reads) := by
  refine (Program.only_request (r := .readFile path) h).bind fun response => ?_
  rcases response with e | bytes
  · exact Program.only_pure _
  · dsimp only
    split <;> exact Program.only_pure _

theorem looks_loadPairs {path : String} (h : path ∈ reads) :
    (loadPairs path).run.Only (Request.Looks reads) := by
  refine Attempt.only_bind (Attempt.only_orFail (looks_readText h) _) fun text => ?_
  split
  · exact Attempt.only_throw _
  · exact Attempt.only_bind (Attempt.only_always (looks_report _)) fun _ => Attempt.only_pure _

/-- **Finding the pairs only looks.** -/
theorem looks_requestedPairs {input : Option String} {builtin : Bool} {config : Config}
    (h : builtin = false → input.getD config.mappedTypes ∈ reads) :
    (requestedPairs input builtin config).run.Only (Request.Looks reads) := by
  unfold requestedPairs
  split
  · exact Attempt.only_pure _
  · rename_i hbuiltin
    exact Attempt.only_orFail (looks_loadPairs (h (Bool.eq_false_of_not_eq_true hbuiltin))) _

theorem looks_requestedPairs_univ {input : Option String} {builtin : Bool} {config : Config} :
    (requestedPairs input builtin config).run.Only (Request.Looks Set.univ) :=
  looks_requestedPairs fun _ => Set.mem_univ _

theorem looks_readStub {path : String} (h : path ∈ reads) :
    (readStub path).Only (Request.Looks reads) := by
  refine (looks_readText h).bind fun result => ?_
  split
  · exact Program.only_pure _
  · exact Program.only_pure _
  · exact (looks_report _).bind fun _ => Program.only_pure _

theorem looks_readEntry {root : String} (h : stubPaths root ⊆ reads) (name : String) :
    (readEntry (Path.join root name)).Only (Request.Looks reads) := by
  refine (looks_readStub (h ⟨name, Or.inl rfl⟩)).bind fun kotlin =>
    (looks_readStub (h ⟨name, Or.inr rfl⟩)).bind fun java => ?_
  split
  · exact Program.only_pure _
  · exact (looks_report _).bind fun _ => Program.only_pure _

theorem looks_readEntries {root : String} (h : stubPaths root ⊆ reads)
    (names : List (String × Bool)) : (readEntries root names).Only (Request.Looks reads) := by
  induction names with
  | nil => exact Program.only_pure _
  | cons name rest ih =>
    unfold readEntries
    split
    · exact (looks_readEntry h _).bind fun entry => ih.bind fun entries => Program.only_pure _
    · exact ih

/-- **Building an index only looks.** -/
theorem looks_buildIndex {root : String} (h : stubPaths root ⊆ reads) :
    (buildIndex root).run.Only (Request.Looks reads) := by
  have hlist : (Attempt.ofProgram (Program.request (.list root)) :
      Attempt DiskError _).run.Only (Request.Looks reads) := Program.only_request trivial
  exact Attempt.only_bind (Attempt.only_orFail hlist _) fun names =>
    Attempt.only_bind (Attempt.only_always (looks_readEntries h names)) fun found =>
      Attempt.only_pure _

theorem looks_reportUnknown (registry : Registry) (pair : MappingPair) :
    (reportUnknown registry pair).Only (Request.Looks reads) := by
  unfold reportUnknown
  split
  · exact Program.only_pure _
  · exact looks_report _

theorem looks_reportUnmapped (registry : Registry) (pair : MappingPair) :
    (reportUnmapped registry pair).Only (Request.Looks reads) := by
  unfold reportUnmapped
  dsimp only
  split
  · exact looks_report _
  · exact Program.only_pure _

theorem looks_runInspect (pair : MappingPair) (stubs json : Bool) :
    (runInspect pair stubs json).Only (Request.Looks reads) := by
  unfold runInspect
  dsimp only
  split
  · exact looks_printLine _
  · exact looks_printLine _
  · exact (looks_printLine _).bind fun _ => (looks_printLine _).bind fun _ =>
      (looks_printLine _).bind fun _ => (looks_printLine _).bind fun _ =>
        Program.only_request trivial
  · exact Program.only_request trivial

theorem looks_runPairs (json : Bool) : (runPairs json).Only (Request.Looks reads) := by
  unfold runPairs
  split
  · exact looks_printLine _
  · exact Program.only_request trivial

theorem looks_printSummary (json : Bool) (summary : Summary) :
    (printSummary json summary).Only (Request.Looks reads) := by
  unfold printSummary
  split
  · exact looks_printLine _
  · exact (looks_printLine _).bind fun _ => looks_printLine _

theorem looks_notePair (json : Bool) (pair : GeneratedPair) :
    (notePair json pair).Only (Request.Looks reads) := by
  refine (Program.only_request (r := .announce pair) trivial).bind fun _ => ?_
  split
  · exact Program.only_pure _
  · exact looks_printLine _

theorem looks_runStop (stop : CommandLine.Stop) : (runStop stop).Only (Request.Looks reads) := by
  cases stop <;> exact (Program.only_request trivial).bind fun _ => Program.only_pure _

end Looks

/-! ### From the arguments to the command -/

variable {env : Environment} {invocation : CommandLine.Invocation} {w : World}

/-- **Without settings nothing is done.** -/
theorem runInvocation_not_loaded {e : CommandError}
    (h : ((loadSettings env invocation.configPath).run.run w).1 = .error e) :
    (runInvocation env invocation).run.run w = (.error e, w) := by
  have hload : (loadSettings env invocation.configPath).run.run w = (.error e, w) :=
    Prod.ext h ((reads_loadSettings env _).run_reads w)
  unfold runInvocation
  exact Attempt.run_bind_error hload

/-- **Under settings the command is carried out**, in a world in which events are reported as the
settings say and nothing else has been made known. -/
theorem runInvocation_loaded {config : Config} {path : Option String}
    (h : ((loadSettings env invocation.configPath).run.run w).1 = .ok (config, path)) :
    ∃ v, v.base = w.base ∧ v.seen = w.seen ∧
      (runInvocation env invocation).run.run w =
        (runCommand config invocation.command).run.run v ∧
      ∀ s ∈ (runCommand config invocation.command).run.states v,
        s ∈ (runInvocation env invocation).run.states w := by
  have hload : (loadSettings env invocation.configPath).run.run w = (.ok (config, path), w) :=
    Prod.ext h ((reads_loadSettings env _).run_reads w)
  have hnext : ∀ {p : Program Unit} {f : Unit → Attempt CommandError Unit} {v s : World},
      s ∈ (f (p.run v).1).run.states (p.run v).2 →
        s ∈ ((Attempt.always p : Attempt CommandError Unit) >>= f).run.states v := by
    intro p f v s hs
    refine Attempt.mem_states_bind.mpr (Or.inr ⟨(p.run v).1, ?_, ?_⟩)
    · rw [Attempt.run_always]
    · rwa [Attempt.run_always]
  unfold runInvocation
  rw [Attempt.run_bind_ok hload]
  -- the log is started, and two events are reported at most
  refine ⟨_, ?_, ?_, (Attempt.run_always_bind _ _ _).trans
    ((Attempt.run_always_bind _ _ _).trans (Attempt.run_always_bind _ _ _)), fun s hs => ?_⟩
  · cases path <;> rfl
  · cases path <;> rfl
  · refine Attempt.mem_states_bind.mpr (Or.inr ⟨(config, path), h, ?_⟩)
    rw [hload]
    exact hnext (hnext (hnext hs))

/-- The exit code of a run with some result. -/
def exitCode {ε α : Type} : Except ε α → Nat
  | .ok _ => successCode
  | .error _ => failureCode

/-- **The exit code** says whether the command was carried out, and a complaint is all that a
failure adds. -/
theorem runArguments_called {arguments : List String}
    (h : CommandLine.Invocation.ofArguments arguments = .ok invocation) :
    ∃ err, (runArguments env arguments).run w =
      (exitCode ((runInvocation env invocation).run.run w).1,
        { ((runInvocation env invocation).run.run w).2 with err := err }) := by
  unfold runArguments
  rw [h]
  simp only
  rw [Program.run_bind]
  rcases (runInvocation env invocation).run.run w with ⟨e | u, v⟩
  · exact ⟨_, rfl⟩
  · exact ⟨v.err, rfl⟩

end TwinTypes
