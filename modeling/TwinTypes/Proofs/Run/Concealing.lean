import TwinTypes.Proofs.Disk.Beside
import TwinTypes.Proofs.Run.Looking
import TwinTypes.Proofs.Run.WholeFile

/-!
# Runs that do not look into some files

A run goes on in the same way whatever is in some files, and whatever is reported on the way, as
long as it neither reads one of these files nor moves or removes one. A run that does none of this
spares them (`TwinTypes.Program.Spares`), and two runs of a program that begin alike then end alike:
`TwinTypes.Program.run_veiled`.

Reading is a matter of the paths that are read, so it is left as a condition. Moving and removing is
not: the program moves and removes its temporary files, and no temporary file is one of those that
were there before. A program that conceals files (`TwinTypes.Program.Conceals`) spares them if none
of the paths it may read ever leads to one of them, and one program after another does so if both do.
-/

namespace TwinTypes

/-! ### Worlds under a veil -/

/-- **The world without the bytes of some files**, and without what has been made known in it. -/
def World.veiled (hidden : List Location) (w : World) : World :=
  { w with
    disk := w.disk.veiled hidden, time := "", logger := none, announced := [], out := "", err := "" }

namespace World

variable {hidden : List Location} {v w : World}

theorem veiled_eq_of_base (h : v.base = w.base) : v.veiled hidden = w.veiled hidden :=
  (congrArg (World.veiled hidden) h :)

theorem disk_eq_of_veiled (h : v.veiled hidden = w.veiled hidden) :
    v.disk.veiled hidden = w.disk.veiled hidden :=
  (congrArg World.disk h :)

theorem cwd_eq_of_veiled (h : v.veiled hidden = w.veiled hidden) : v.cwd = w.cwd :=
  (congrArg World.cwd h :)

theorem process_eq_of_veiled (h : v.veiled hidden = w.veiled hidden) : v.process = w.process :=
  (congrArg World.process h :)

theorem counter_eq_of_veiled (h : v.veiled hidden = w.veiled hidden) : v.counter = w.counter :=
  (congrArg World.counter h :)

/-- Worlds are the same under a veil if the parts are. -/
theorem veiled_eq (hdisk : v.disk.veiled hidden = w.disk.veiled hidden) (hcwd : v.cwd = w.cwd)
    (hprocess : v.process = w.process) (hcounter : v.counter = w.counter) :
    v.veiled hidden = w.veiled hidden := by
  rw [veiled, veiled, hdisk, hcwd, hprocess, hcounter]

end World

/-! ### Requests under a veil -/

/-- **A request that spares some files**: it does not read one of them, and what it moves or removes
is another file. -/
def Request.Spares (hidden : List Location) (w : World) : Request → Prop
  | readFile path => w.disk.Averts hidden w.cwd path
  | rename source _ => w.disk.NamesBeside hidden w.cwd source
  | remove path => w.disk.NamesBeside hidden w.cwd path
  | _ => True

/-- What a request writes on the standard output. -/
def Request.output : Request → String
  | print text => text
  | _ => ""

namespace World

variable {hidden : List Location} {v w : World} {r : Request}

theorem answer_out (w : World) (r : Request) : (w.answer r).2.out = w.out ++ r.output := by
  have hchange : ∀ result : Except DiskError Disk, (w.change result).2.out = w.out ++ "" := by
    rintro (e | d) <;> simp [change]
  cases r with
  | makeDir path => exact hchange _
  | append path bytes => exact hchange _
  | rename source target => exact hchange _
  | remove path => exact hchange _
  | createTemp dir name =>
    change (w.createTemp dir name _ _).2.out = w.out ++ ""
    rcases w.createTemp_cases dir name (w.disk.entries.length + 1) w.counter with
      ⟨k, d, n, -, h⟩ | ⟨e, n, h⟩ <;> simp [h]
  | print text => rfl
  | _ => exact String.append_empty.symm

theorem change_veiled {result result' : Except DiskError Disk}
    (h : v.veiled hidden = w.veiled hidden)
    (hresult : result.map (Disk.veiled hidden) = result'.map (Disk.veiled hidden)) :
    (v.change result).1 = (w.change result').1 ∧
      (v.change result).2.veiled hidden = (w.change result').2.veiled hidden := by
  rcases result with e | d <;> rcases result' with e' | d' <;>
    simp only [Except.map, Except.error.injEq, Except.ok.injEq, reduceCtorEq] at hresult
  · exact ⟨congrArg Except.error hresult, h⟩
  · have hcwd := cwd_eq_of_veiled h
    have hprocess := process_eq_of_veiled h
    have hcounter := counter_eq_of_veiled h
    exact ⟨rfl, veiled_eq hresult hcwd hprocess hcounter⟩

theorem createTemp_veiled (h : v.veiled hidden = w.veiled hidden) (dir name : String)
    (fuel n : Nat) :
    (v.createTemp dir name fuel n).1 = (w.createTemp dir name fuel n).1 ∧
      (v.createTemp dir name fuel n).2.veiled hidden =
        (w.createTemp dir name fuel n).2.veiled hidden := by
  have hdisk := disk_eq_of_veiled h
  have hcwd := cwd_eq_of_veiled h
  have hprocess := process_eq_of_veiled h
  have hcounter : ∀ n, ({ v with counter := n } : World).veiled hidden =
      ({ w with counter := n } : World).veiled hidden := fun n =>
    veiled_eq hdisk hcwd hprocess rfl
  induction fuel generalizing n with
  | zero => exact ⟨rfl, hcounter n⟩
  | succ fuel ih =>
    have hname : v.tempName name n = w.tempName name n := by rw [tempName, tempName, hprocess]
    have hcreate : (v.disk.createFile v.cwd (Path.join dir (w.tempName name n))).map
          (Disk.veiled hidden) =
        (w.disk.createFile w.cwd (Path.join dir (w.tempName name n))).map (Disk.veiled hidden) := by
      rw [← Disk.createFile_veiled, ← Disk.createFile_veiled, hdisk, hcwd]
    unfold createTemp
    dsimp only
    rw [hname]
    rcases hv : v.disk.createFile v.cwd (Path.join dir (w.tempName name n)) with e | d <;>
      rcases hw : w.disk.createFile w.cwd (Path.join dir (w.tempName name n)) with e' | d' <;>
      rw [hv, hw] at hcreate <;>
      simp only [Except.map, Except.error.injEq, Except.ok.injEq, reduceCtorEq] at hcreate
    · subst hcreate
      cases e with
      | occupied => exact ih (n + 1)
      | _ => exact ⟨rfl, hcounter (n + 1)⟩
    · exact ⟨rfl, veiled_eq hcreate hcwd hprocess rfl⟩

/-- **A request that spares some files** is met in the same way whatever is in them. -/
theorem answer_veiled (h : v.veiled hidden = w.veiled hidden) (hr : r.Spares hidden w) :
    (v.answer r).1 = (w.answer r).1 ∧
      (v.answer r).2.veiled hidden = (w.answer r).2.veiled hidden := by
  have hdisk := disk_eq_of_veiled h
  have hcwd := cwd_eq_of_veiled h
  cases r with
  | makeDir path =>
    refine change_veiled h ?_
    rw [← Disk.makeDir_veiled, ← Disk.makeDir_veiled, hdisk, hcwd]
  | append path bytes =>
    refine change_veiled h ?_
    rw [← Disk.appendFile_veiled, ← w.disk.appendFile_veiled, hdisk, hcwd]
  | rename source target =>
    refine change_veiled h ?_
    have hr' : v.disk.NamesBeside hidden v.cwd source := hcwd ▸ Disk.NamesBeside.congr hdisk hr
    rw [← Disk.renameFile_veiled _ _ hr', ← Disk.renameFile_veiled _ _ hr, hdisk, hcwd]
  | remove path =>
    refine change_veiled h ?_
    rw [← Disk.removeFile_veiled, ← Disk.removeFile_veiled, hdisk, hcwd]
  | createTemp dir name =>
    have hfuel : v.disk.entries.length = w.disk.entries.length := by
      rw [← Disk.length_entries_veiled _ hidden, hdisk, Disk.length_entries_veiled]
    unfold answer
    rw [hfuel, counter_eq_of_veiled h]
    exact createTemp_veiled h dir name _ _
  | isDirectory path =>
    refine ⟨?_, h⟩
    rw [answer, answer, ← Disk.isDirectory_veiled _ _ _ hidden, hdisk, hcwd, Disk.isDirectory_veiled]
  | isFile path =>
    refine ⟨?_, h⟩
    rw [answer, answer, ← Disk.isFile_veiled _ _ _ hidden, hdisk, hcwd, Disk.isFile_veiled]
  | list path =>
    refine ⟨?_, h⟩
    rw [answer, answer, ← Disk.list_veiled _ _ _ hidden, hdisk, hcwd, Disk.list_veiled]
  | readFile path =>
    refine ⟨?_, h⟩
    have hr' : v.disk.Averts hidden v.cwd path := hcwd ▸ Disk.Averts.congr hdisk hr
    rw [answer, answer, ← Disk.readFile_veiled _ _ hr', hdisk, hcwd, Disk.readFile_veiled _ _ hr]
  | sync | startLog | report | announce | print | complain => exact ⟨rfl, h⟩

end World

/-! ### Programs under a veil -/

/-- **A run that spares some files**: each of its requests does. -/
def Program.Spares {α : Type} (hidden : List Location) : Program α → World → Prop
  | .done _, _ => True
  | .act r next, w =>
    r.Spares hidden w ∧ (next (w.answer r).1).Spares hidden (w.answer r).2

theorem Program.spares_pure {α : Type} {hidden : List Location} {w : World} (a : α) :
    (pure a : Program α).Spares hidden w :=
  trivial

theorem Program.spares_act {α : Type} {hidden : List Location} {w : World} {r : Request}
    {next : r.Response → Program α} : (act r next).Spares hidden w ↔
      r.Spares hidden w ∧ (next (w.answer r).1).Spares hidden (w.answer r).2 :=
  Iff.rfl

section Runs

variable {α β ε ε' : Type} {hidden : List Location} {v w : World} {reads : Set String}

namespace Program

variable {p : Program α}

/-- **A run that spares some files** goes on in the same way whatever is in them, and whatever has
been made known before. -/
theorem run_veiled (hp : p.Spares hidden w) (h : v.veiled hidden = w.veiled hidden) :
    (p.run v).1 = (p.run w).1 ∧ (p.run v).2.veiled hidden = (p.run w).2.veiled hidden ∧
      ∃ text, (p.run v).2.out = v.out ++ text ∧ (p.run w).2.out = w.out ++ text := by
  induction p generalizing v w with
  | done a => exact ⟨rfl, h, "", String.append_empty.symm, String.append_empty.symm⟩
  | act r next ih =>
    obtain ⟨hr, hnext⟩ := spares_act.mp hp
    obtain ⟨hresponse, hafter⟩ := World.answer_veiled h hr
    obtain ⟨hresult, hend, text, hv, hw⟩ := ih _ hnext hafter
    rw [run_act, run_act, hresponse]
    refine ⟨hresult, hend, r.output ++ text, ?_, ?_⟩
    · rw [hv, World.answer_out, String.append_assoc]
    · rw [hw, World.answer_out, String.append_assoc]

theorem spares_request {r : Request} (h : r.Spares hidden w) : (request r).Spares hidden w :=
  spares_act.mpr ⟨h, spares_pure _⟩

theorem spares_bind {f : α → Program β} : (p >>= f).Spares hidden w ↔
    p.Spares hidden w ∧ (f (p.run w).1).Spares hidden (p.run w).2 := by
  induction p generalizing w with
  | done a => exact ⟨fun h => ⟨spares_pure a, h⟩, fun h => h.2⟩
  | act r next ih =>
    have hbind : (act r next >>= f) = act r fun response => next response >>= f := rfl
    rw [hbind, spares_act, spares_act, ih, and_assoc, run_act]

end Program

/-- **Files that are spared are still there.** -/
theorem World.hasFiles_answer {r : Request} (h : w.disk.HasFiles hidden) (hr : r.Spares hidden w) :
    (w.answer r).2.disk.HasFiles hidden := by
  have hchange : ∀ result : Except DiskError Disk, (∀ d, result = .ok d → d.HasFiles hidden) →
      (w.change result).2.disk.HasFiles hidden := by
    rintro (e | d) hresult
    · exact h
    · exact hresult d rfl
  cases r with
  | makeDir path => exact hchange _ fun d => h.of_makeDir
  | append path bytes => exact hchange _ fun d => h.of_appendFile
  | rename source target => exact hchange _ fun d => h.of_renameFile hr
  | remove path => exact hchange _ fun d => h.of_removeFile hr
  | createTemp dir name =>
    change (w.createTemp dir name _ _).2.disk.HasFiles hidden
    rcases w.createTemp_cases dir name (w.disk.entries.length + 1) w.counter with
      ⟨k, d, n, hcreate, hrun⟩ | ⟨e, n, hrun⟩
    · rw [hrun]
      exact h.of_createFile hcreate
    · rw [hrun]
      exact h
  | _ => exact h

theorem Program.Spares.hasFiles {p : Program α} (hp : p.Spares hidden w)
    (h : w.disk.HasFiles hidden) : (p.run w).2.disk.HasFiles hidden := by
  induction p generalizing w with
  | done a => exact h
  | act r next ih =>
    obtain ⟨hr, hnext⟩ := Program.spares_act.mp hp
    exact ih _ hnext (World.hasFiles_answer h hr)

/-! ### Programs that conceal files -/

/-- **A program that conceals files**: it spares them in every run that finds them there, as long as
no path that may be read leads to one of them. -/
structure Program.Conceals (reads : Set String) (hidden : List Location) (p : Program α) :
    Prop where
  /-- It spares them. -/
  spares : ∀ w, w.disk.HasFiles hidden →
    (∀ s ∈ p.states w, ∀ path ∈ reads, s.disk.Averts hidden s.cwd path) → p.Spares hidden w

namespace Program

theorem conceals_pure (a : α) : (pure a : Program α).Conceals reads hidden :=
  ⟨fun _ _ _ => spares_pure a⟩

/-- **One program after another** conceals files if both do. -/
theorem Conceals.bind {p : Program α} {f : α → Program β} (hp : p.Conceals reads hidden)
    (hf : ∀ a, (f a).Conceals reads hidden) : (p >>= f).Conceals reads hidden := by
  constructor
  intro w hfiles haverts
  have hfirst : p.Spares hidden w :=
    hp.spares w hfiles fun s hs => haverts s (mem_states_bind.mpr (Or.inl hs))
  have hsecond : (f (p.run w).1).Spares hidden (p.run w).2 :=
    (hf (p.run w).1).spares _ (hfirst.hasFiles hfiles) fun s hs =>
      haverts s (mem_states_bind.mpr (Or.inr hs))
  exact spares_bind.mpr ⟨hfirst, hsecond⟩

/-- A request that touches no file. -/
theorem conceals_request {r : Request} (h : ∀ w, r.Spares hidden w) :
    (request r).Conceals reads hidden :=
  ⟨fun w _ _ => spares_request (h w)⟩

/-- **Looking** conceals what no path that is read leads to. -/
theorem Only.conceals {p : Program α} (hp : p.Only (Request.Looks reads)) :
    p.Conceals reads hidden := by
  constructor
  intro w hfiles haverts
  clear hfiles
  induction p generalizing w with
  | done a => exact spares_pure a
  | act r next ih =>
    refine spares_act.mpr
      ⟨?_, ih _ (hp.2 _) _ fun s hs => haverts s (List.mem_append_right _ hs)⟩
    cases r with
    | readFile path => exact haverts w (self_mem_states _ w) path hp.1
    | rename | remove => exact hp.1.elim
    | _ => trivial

/-- **A process does the same in the same state**, whatever has been made known before. -/
theorem Conceals.run_congr {p : Program α} (hp : p.Conceals reads [])
    (h : v.veiled [] = w.veiled []) : (p.run v).1 = (p.run w).1 ∧
      (p.run v).2.disk = (p.run w).2.disk ∧ (p.run v).2.counter = (p.run w).2.counter := by
  have hspares : p.Spares [] w :=
    hp.spares w (fun _ hmem => absurd hmem List.not_mem_nil)
      fun _ _ _ _ _ _ _ => List.not_mem_nil
  obtain ⟨hresult, hend, -⟩ := run_veiled hspares h
  have hdisk := World.disk_eq_of_veiled hend
  rw [Disk.veiled_nil, Disk.veiled_nil] at hdisk
  exact ⟨hresult, hdisk, World.counter_eq_of_veiled hend⟩

end Program

namespace Attempt

variable {p : Attempt ε α}

theorem spares_bind {f : α → Attempt ε β} : (p >>= f).run.Spares hidden w ↔
    p.run.Spares hidden w ∧
      ∀ a, (p.run.run w).1 = .ok a → (f a).run.Spares hidden (p.run.run w).2 := by
  rw [ExceptT.run_bind, Program.spares_bind]
  refine and_congr_right fun _ => ?_
  cases hresult : (p.run.run w).1 with
  | ok a => simp
  | error e =>
    refine iff_of_true (Program.spares_pure _) ?_
    rintro a ⟨⟩

theorem spares_outcome_bind {f : Except ε α → Attempt ε' β} :
    (p.outcome >>= f).run.Spares hidden w ↔
      p.run.Spares hidden w ∧ (f (p.run.run w).1).run.Spares hidden (p.run.run w).2 := by
  have hrun : (p.outcome >>= f).run = p.run >>= fun result => (f result).run := by
    rw [ExceptT.run_bind]
    unfold outcome
    rw [ExceptT.run_mk, bind_assoc]
    rfl
  rw [hrun, Program.spares_bind]

theorem spares_orFail {f : ε → ε'} (h : p.run.Spares hidden w) :
    (p.orFail f).run.Spares hidden w := by
  refine Program.spares_bind.mpr ⟨h, ?_⟩
  cases (p.run.run w).1 <;> exact Program.spares_pure _

theorem spares_always {q : Program α} (h : q.Spares hidden w) :
    (always q : Attempt ε α).run.Spares hidden w :=
  Program.spares_bind.mpr ⟨h, Program.spares_pure _⟩

theorem spares_throw (e : ε) : (throw e : Attempt ε α).run.Spares hidden w :=
  Program.spares_pure _

theorem conceals_pure (a : α) : (pure a : Attempt ε α).run.Conceals reads hidden :=
  Program.conceals_pure _

theorem conceals_throw (e : ε) : (throw e : Attempt ε α).run.Conceals reads hidden :=
  Program.conceals_pure _

theorem conceals_bind {f : α → Attempt ε β} (hp : p.run.Conceals reads hidden)
    (hf : ∀ a, (f a).run.Conceals reads hidden) : (p >>= f).run.Conceals reads hidden := by
  rw [ExceptT.run_bind]
  refine hp.bind fun result => ?_
  cases result with
  | ok a => exact hf a
  | error e => exact conceals_throw e

theorem conceals_always {q : Program α} (hq : q.Conceals reads hidden) :
    (always q : Attempt ε α).run.Conceals reads hidden :=
  hq.bind fun _ => Program.conceals_pure _

theorem conceals_orFail (hp : p.run.Conceals reads hidden) (f : ε → ε') :
    (p.orFail f).run.Conceals reads hidden :=
  hp.bind fun result => by
    cases result <;> exact Program.conceals_pure _

end Attempt

/-! ### Writing conceals -/

theorem conceals_unlessDirectory (path : String) (e : DiskError) :
    (unlessDirectory path e).run.Conceals reads hidden := by
  have hlook : (isDirectory path).Conceals reads hidden :=
    Program.conceals_request fun _ => trivial
  refine Attempt.conceals_bind (Attempt.conceals_always hlook) fun isDir => ?_
  split
  · exact Attempt.conceals_pure _
  · exact Attempt.conceals_throw _

theorem conceals_createDirsAlong (paths : List String) :
    (createDirsAlong paths).run.Conceals reads hidden := by
  induction paths with
  | nil => exact Attempt.conceals_pure _
  | cons path rest ih =>
    have hmake : (Attempt.always (makeDir path) :
        Attempt DiskError (Except DiskError Unit)).run.Conceals reads hidden :=
      Attempt.conceals_always (Program.conceals_request fun _ => trivial)
    rw [createDirsAlong]
    split
    · exact Attempt.conceals_pure _
    · refine Attempt.conceals_bind hmake fun first => ?_
      split
      · exact Attempt.conceals_pure _
      · refine Attempt.conceals_bind ih fun _ => Attempt.conceals_bind hmake fun second => ?_
        split
        · exact Attempt.conceals_pure _
        · exact conceals_unlessDirectory path _
      · exact conceals_unlessDirectory path _

theorem conceals_createDirs (path : String) : (createDirs path).run.Conceals reads hidden :=
  conceals_createDirsAlong _

/-- The file that is filled and moved is another one; if it cannot be moved it is still there. -/
theorem spares_fillAndMove {temp : String} (h : w.disk.NamesBeside hidden w.cwd temp)
    (path : String) (bytes : ByteArray) :
    (fillAndMove temp path bytes).run.Spares hidden w ∧
      ∀ e, ((fillAndMove temp path bytes).run.run w).1 = .error e →
        ((fillAndMove temp path bytes).run.run w).2.disk.NamesBeside hidden
          ((fillAndMove temp path bytes).run.run w).2.cwd temp := by
  obtain ⟨d, happend⟩ : ∃ d, w.disk.appendFile w.cwd temp bytes = .ok d := by
    obtain ⟨loc, before, hresolve, -⟩ := h
    unfold Disk.appendFile
    rw [hresolve]
    exact ⟨_, rfl⟩
  have hfilled : d.NamesBeside hidden w.cwd temp := h.of_appendFile happend
  constructor
  · have hrun : (Attempt.ofProgram (Program.request (.append temp bytes))).run.run w =
        (.ok (), { w with disk := d }) := by
      change w.change (w.disk.appendFile w.cwd temp bytes) = _
      rw [happend]
      rfl
    refine Attempt.spares_bind.mpr ⟨Program.spares_request trivial, fun _ _ => ?_⟩
    rw [hrun]
    exact Attempt.spares_bind.mpr ⟨Program.spares_request trivial, fun _ _ =>
      Program.spares_request hfilled⟩
  · rw [fillAndMove_run happend]
    cases d.renameFile w.cwd temp path with
    | error e => exact fun _ _ => hfilled
    | ok d' => exact fun e he => by cases he

theorem spares_discard {temp : String} (h : w.disk.NamesBeside hidden w.cwd temp) :
    (discard temp).Spares hidden w := by
  refine Program.spares_bind.mpr ⟨Program.spares_request h, ?_⟩
  split
  · exact Program.spares_pure _
  · exact Program.spares_pure _
  · exact Program.spares_request trivial

/-- What has been made takes the place that is meant for it, or is removed. -/
theorem spares_fillOrDiscard {temp : String} (h : w.disk.NamesBeside hidden w.cwd temp)
    (path : String) (bytes : ByteArray) :
    (do
      match ← (fillAndMove temp path bytes).outcome with
      | .ok _ => pure ()
      | .error e => do
        Attempt.always (discard temp)
        throw (.io path e) : Attempt GenError Unit).run.Spares hidden w := by
  obtain ⟨hfill, hfailed⟩ := spares_fillAndMove h path bytes
  refine Attempt.spares_outcome_bind.mpr ⟨hfill, ?_⟩
  split
  · exact Program.spares_pure _
  · rename_i e he
    refine Attempt.spares_bind.mpr ⟨?_, fun _ _ => Attempt.spares_throw _⟩
    exact Attempt.spares_always (spares_discard (hfailed e he))

/-- **Writing a file whole conceals** every file that is there. -/
theorem conceals_atomicWrite (path : String) (bytes : ByteArray) :
    (atomicWrite path bytes).run.Conceals reads hidden := by
  unfold atomicWrite
  simp only
  refine Attempt.conceals_bind (Attempt.conceals_orFail (conceals_createDirs _) _) fun _ => ?_
  split
  · exact Attempt.conceals_throw _
  rename_i name hname
  constructor
  intro w hfiles _
  refine Attempt.spares_bind.mpr
    ⟨Attempt.spares_orFail (Program.spares_request trivial), fun temp htemp => ?_⟩
  rcases createTemp_cases w (parentDir path) name with ⟨k, d, n, hcreate, hrun⟩ | ⟨e, n, hrun⟩
  · rw [Attempt.run_orFail_ok hrun] at htemp ⊢
    cases htemp
    exact spares_fillOrDiscard (Disk.namesBeside_of_createFile hfiles hcreate) path bytes
  · rw [Attempt.run_orFail_error hrun] at htemp
    cases htemp

/-! ### Commands conceal -/

theorem conceals_writeFiles (dir : String) (files : List (String × String)) :
    (writeFiles dir files).run.Conceals reads hidden := by
  induction files with
  | nil => exact Attempt.conceals_pure _
  | cons file rest ih =>
    rw [writeFiles]
    exact Attempt.conceals_bind (conceals_atomicWrite _ _) fun _ => ih

theorem conceals_writePair (out : String) (artifacts : Artifacts) :
    (writePair out artifacts).run.Conceals reads hidden := by
  unfold writePair
  exact Attempt.conceals_bind (Attempt.conceals_orFail (conceals_createDirs _) _) fun _ =>
    Attempt.conceals_bind (conceals_writeFiles _ _) fun _ => Attempt.conceals_pure _

variable {onPair : GeneratedPair → Program Unit}

theorem conceals_generatePair (honPair : ∀ entry, (onPair entry).Only (Request.Looks reads))
    (registry : Registry) (out : String) (pair : MappingPair) :
    (generatePair registry out onPair pair).run.Conceals reads hidden := by
  unfold generatePair
  exact Attempt.conceals_bind (Attempt.conceals_always (looks_reportUnknown _ _).conceals) fun _ =>
    Attempt.conceals_bind (Attempt.conceals_always (looks_reportUnmapped _ _).conceals) fun _ =>
      Attempt.conceals_bind (conceals_writePair out _) fun _ =>
        Attempt.conceals_bind (Attempt.conceals_always (looks_report _).conceals) fun _ =>
          Attempt.conceals_bind (Attempt.conceals_always (honPair _).conceals) fun _ =>
            Attempt.conceals_pure _

/-- **Generating conceals** every file that is there, for every observer that only looks. -/
theorem conceals_generate (honPair : ∀ entry, (onPair entry).Only (Request.Looks reads))
    (registry : Registry) (pairs : List MappingPair) (out : String) :
    (generate registry pairs out onPair).run.Conceals reads hidden := by
  have hall : (generateAll registry out onPair pairs).run.Conceals reads hidden := by
    induction pairs with
    | nil => exact Attempt.conceals_pure _
    | cons pair rest ih =>
      rw [generateAll]
      exact Attempt.conceals_bind (conceals_generatePair honPair registry out pair) fun _ =>
        Attempt.conceals_bind ih fun _ => Attempt.conceals_pure _
  unfold generate
  exact Attempt.conceals_bind (Attempt.conceals_orFail (conceals_createDirs _) _) fun _ =>
    Attempt.conceals_bind hall fun _ => Attempt.conceals_pure _

theorem conceals_rebuildIndex {out : String} (h : stubPaths out ⊆ reads) (file : String) :
    (rebuildIndex out file).run.Conceals reads hidden := by
  unfold rebuildIndex
  exact Attempt.conceals_bind (Attempt.conceals_orFail (looks_buildIndex h).conceals _) fun _ =>
    Attempt.conceals_bind (Attempt.conceals_orFail (conceals_atomicWrite _ _) _) fun _ =>
      Attempt.conceals_bind (Attempt.conceals_always (looks_report _).conceals) fun _ =>
        Attempt.conceals_pure _

/-- **The files that a command may read** under some settings: the mapped-types document, and the
stub files below the output directory. -/
def CommandLine.Command.mayRead (config : Config) : CommandLine.Command → Set String
  | .generate input builtin output indexed _ =>
    {path | builtin = false ∧ path = input.getD config.mappedTypes} ∪
      {path | indexed = true ∧ path ∈ stubPaths (output.getD config.outputDir)}
  | .index output _ _ => stubPaths (output.getD config.outputDir)
  | .inspect _ _ _ _ | .pairs _ => ∅

/-- **A command conceals** every file that is there and that it may not read. -/
theorem conceals_runCommand (config : Config) (command : CommandLine.Command) :
    (runCommand config command).run.Conceals (command.mayRead config) hidden := by
  cases command with
  | inspect kotlin java stubs json =>
    exact Attempt.conceals_always (looks_runInspect _ _ _).conceals
  | pairs json => exact Attempt.conceals_always (looks_runPairs _).conceals
  | index output indexFile json =>
    refine Attempt.conceals_bind (conceals_rebuildIndex subset_rfl _) fun index => ?_
    refine Attempt.conceals_always ?_
    split <;> exact (looks_printLine _).conceals
  | generate input builtin output index json =>
    refine Attempt.conceals_bind ?_ fun pairs => Attempt.conceals_bind (Attempt.conceals_orFail
      (conceals_generate (looks_notePair json) _ pairs _) _) fun summary => ?_
    · exact (looks_requestedPairs fun hbuiltin => Or.inl ⟨hbuiltin, rfl⟩).conceals
    · have hprint : (Attempt.always (printSummary json summary) :
          Attempt CommandError Unit).run.Conceals
            (CommandLine.Command.mayRead config (.generate input builtin output index json))
            hidden := Attempt.conceals_always (looks_printSummary json summary).conceals
      cases index with
      | false => exact hprint
      | true =>
        have hstubs : stubPaths (output.getD config.outputDir) ⊆
            CommandLine.Command.mayRead config (.generate input builtin output true json) :=
          fun path hpath => Or.inr ⟨rfl, hpath⟩
        exact Attempt.conceals_bind (conceals_rebuildIndex hstubs _) fun _ => hprint

end Runs

end TwinTypes
