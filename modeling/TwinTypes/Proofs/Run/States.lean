import TwinTypes.Proofs.Run.WholeFile

/-!
# What can be seen while a program runs

The states of a run are those between its requests and those in the middle of a request
(`TwinTypes.Program.states`). The first part of this file takes them apart along with the program:
a state of one program after another is a state of the one or of the other.

The second part says what it is for a place on the disk to be safe to look at. A
`TwinTypes.Watch` names the place, and what may come to stand there; a program respects it
(`TwinTypes.Program.Respects`) if nothing else ever does, in no state of any run. A directory may
come about where nothing stood, and a file may come about with one of some texts, all of it at once.
What a program is put together of can be looked at piece by piece, whatever the responses are.
-/

namespace TwinTypes

/-! ### The states of a program that is put together -/

namespace Program

variable {α β : Type} {p : Program α} {f : α → Program β} {w s : World}

theorem self_mem_states (p : Program α) (w : World) : w ∈ p.states w := by
  cases p <;> simp [states]

theorem run_mem_states (p : Program α) (w : World) : (p.run w).2 ∈ p.states w := by
  induction p generalizing w with
  | done a => simp [run, states]
  | act r next ih =>
    rw [states, run]
    exact List.mem_append_right _ (ih (w.answer r).1 (w.answer r).2)

/-- **A state of one program after another** is a state of the one or of the other. -/
theorem mem_states_bind : s ∈ (p >>= f).states w ↔
    s ∈ p.states w ∨ s ∈ (f (p.run w).1).states (p.run w).2 := by
  induction p generalizing w with
  | done a =>
    change s ∈ (f a).states w ↔ s ∈ [w] ∨ s ∈ (f a).states w
    rw [List.mem_singleton]
    constructor
    · exact Or.inr
    · rintro (rfl | h)
      · exact self_mem_states _ _
      · exact h
  | act r next ih =>
    change s ∈ w :: w.stages r ++ (next (w.answer r).1 >>= f).states (w.answer r).2 ↔
      s ∈ w :: w.stages r ++ (next (w.answer r).1).states (w.answer r).2 ∨ _
    rw [List.mem_append, List.mem_append, or_assoc, ih]
    rfl

/-- A result that is only put into another form adds no state. -/
theorem mem_states_bind_pure (hf : ∀ a, ∃ b, f a = pure b) :
    s ∈ (p >>= f).states w ↔ s ∈ p.states w := by
  obtain ⟨b, hb⟩ := hf (p.run w).1
  rw [mem_states_bind, hb]
  constructor
  · rintro (h | h)
    · exact h
    · rw [List.mem_singleton.mp h]
      exact run_mem_states p w
  · exact Or.inl

/-- The states of a single request. -/
theorem mem_states_request {r : Request} :
    s ∈ (request r).states w ↔ s = w ∨ s ∈ w.stages r ∨ s = (w.answer r).2 := by
  change s ∈ w :: w.stages r ++ [(w.answer r).2] ↔ _
  rw [List.mem_append, List.mem_cons, List.mem_singleton, or_assoc]

/-- A request that is met at once has two states. -/
theorem of_mem_states_request {r : Request} (hstages : w.stages r = [])
    (hs : s ∈ (request r).states w) : s = w ∨ s = (w.answer r).2 := by
  rw [mem_states_request, hstages] at hs
  simpa using hs

end Program

namespace Attempt

variable {ε ε' α β : Type} {p : Attempt ε α} {w s : World}

/-- **A state of one program after another**: the second one has states if the first one
succeeds. -/
theorem mem_states_bind {f : α → Attempt ε β} : s ∈ (p >>= f).run.states w ↔
    s ∈ p.run.states w ∨
      ∃ a, (p.run.run w).1 = .ok a ∧ s ∈ (f a).run.states (p.run.run w).2 := by
  rw [ExceptT.run_bind, Program.mem_states_bind]
  cases hresult : (p.run.run w).1 with
  | ok a => simp
  | error e =>
    simp only [reduceCtorEq, false_and, exists_false, or_false]
    constructor
    · rintro (h | h)
      · exact h
      -- a failure is the end, in the state that the first program leaves
      · rw [List.mem_singleton.mp h]
        exact Program.run_mem_states _ _
    · exact Or.inl

theorem mem_states_orFail {f : ε → ε'} : s ∈ (p.orFail f).run.states w ↔ s ∈ p.run.states w := by
  refine Program.mem_states_bind_pure fun result => ?_
  cases result with
  | ok a => exact ⟨_, rfl⟩
  | error e => exact ⟨_, rfl⟩

theorem mem_states_always {q : Program α} :
    s ∈ (always q : Attempt ε α).run.states w ↔ s ∈ q.states w :=
  Program.mem_states_bind_pure fun _ => ⟨_, rfl⟩

/-- A program that fails after another one adds no state. -/
theorem mem_states_bind_throw {e : ε} :
    s ∈ (p >>= fun _ => (throw e : Attempt ε β)).run.states w ↔ s ∈ p.run.states w := by
  rw [ExceptT.run_bind]
  refine Program.mem_states_bind_pure fun result => ?_
  cases result with
  | ok a => exact ⟨_, rfl⟩
  | error e' => exact ⟨_, rfl⟩

/-- A program goes on from what has become of another one, failure or not. -/
theorem mem_states_outcome_bind {f : Except ε α → Attempt ε' β} :
    s ∈ (p.outcome >>= f).run.states w ↔
      s ∈ p.run.states w ∨ s ∈ (f (p.run.run w).1).run.states (p.run.run w).2 := by
  have hrun : (p.outcome >>= f).run = p.run >>= fun result => (f result).run := by
    rw [ExceptT.run_bind]
    unfold outcome
    rw [ExceptT.run_mk, bind_assoc]
    rfl
  rw [hrun, Program.mem_states_bind]

end Attempt

/-! ### Watched places -/

/-- **What may be seen at a place**: what was there before; or a directory where nothing stood, if
one may be made on some way; or a whole text where no directory stood. -/
def Admits (way : Prop) (whole : Set ByteArray) (before after : Option Entry) : Prop :=
  after = before ∨ (way ∧ before = none ∧ after = some .directory) ∨
    (before ≠ some .directory ∧ ∃ bytes ∈ whole, after = some (.file bytes))

section

variable {way : Prop} {whole : Set ByteArray} {x y z : Option Entry}

theorem Admits.trans (h : Admits way whole x y) (h' : Admits way whole y z) :
    Admits way whole x z := by
  rcases h' with rfl | ⟨hway, rfl, rfl⟩ | ⟨hdir, bytes, hwhole, rfl⟩
  · exact h
  · rcases h with rfl | ⟨-, -, hy⟩ | ⟨-, _, -, hy⟩
    · exact Or.inr (Or.inl ⟨hway, rfl, rfl⟩)
    · cases hy
    · cases hy
  · refine Or.inr (Or.inr ⟨?_, bytes, hwhole, rfl⟩)
    rintro rfl
    rcases h with hy | ⟨-, hx, -⟩ | ⟨hx, -⟩
    · exact hdir hy
    · cases hx
    · exact hx rfl

/-- What a change within bounds does at a place that is outside those of the files. -/
theorem Disk.Changes.admits {d d' : Disk} {dirs files : Set Location} {loc : Location}
    (h : d.Changes dirs files d') (hdirs : loc ∈ dirs → way) (hfiles : loc ∉ files) :
    Admits way whole (d.get? loc) (d'.get? loc) := by
  rcases h.cases loc with hc | ⟨hl, hnone, hdir⟩ | ⟨hl, -⟩
  · exact Or.inl hc
  · exact Or.inr (Or.inl ⟨hdirs hl, hnone, hdir⟩)
  · exact absurd hl hfiles

end

/-- **A place that is watched.** -/
structure Watch where
  /-- The directory in which the program works. -/
  cwd : Location
  /-- The place. -/
  loc : Location
  /-- Whether a directory may be made there. -/
  way : Prop
  /-- The texts that may be put there. -/
  whole : Set ByteArray

/-- A state that may be seen, given the one in which the watch begins. -/
structure Watch.Allows (v : Watch) (w s : World) : Prop where
  /-- The program works in the same directory. -/
  cwd : s.cwd = w.cwd
  /-- The disk is a tree. -/
  tree : s.disk.IsTree
  /-- What may stand at the place. -/
  admits : Admits v.way v.whole (w.disk.get? v.loc) (s.disk.get? v.loc)

namespace Watch.Allows

variable {v : Watch} {w s t : World}

theorem trans (h : v.Allows w s) (h' : v.Allows s t) : v.Allows w t :=
  ⟨h'.cwd.trans h.cwd, h'.tree, h.admits.trans h'.admits⟩

/-- A state in which the disk is the same. -/
theorem of_disk_eq (h : w.disk.IsTree) (hcwd : s.cwd = w.cwd) (hdisk : s.disk = w.disk) :
    v.Allows w s :=
  ⟨hcwd, hdisk ▸ h, Or.inl (by rw [hdisk])⟩

end Watch.Allows

/-- **A program that respects a watch**: no state of any of its runs shows at the place what may not
be seen there. -/
def Program.Respects {α : Type} (p : Program α) (v : Watch) : Prop :=
  ∀ w, w.cwd = v.cwd → w.disk.IsTree → ∀ s ∈ p.states w, v.Allows w s

/-- **A program that leaves the disk alone**, in every state of its runs. -/
def Program.Quiet {α : Type} (p : Program α) : Prop :=
  ∀ w, ∀ s ∈ p.states w, s.cwd = w.cwd ∧ s.disk = w.disk

namespace Program

variable {α β : Type} {p : Program α} {v : Watch}

theorem Quiet.respects (h : p.Quiet) (v : Watch) : p.Respects v := by
  intro w _ htree s hs
  obtain ⟨hcwd, hdisk⟩ := h w s hs
  exact .of_disk_eq htree hcwd hdisk

theorem quiet_pure (a : α) : (pure a : Program α).Quiet := by
  intro w s hs
  rw [List.mem_singleton.mp hs]
  exact ⟨rfl, rfl⟩

/-- A request that leaves the disk alone. -/
theorem quiet_request {r : Request} (hstages : ∀ w : World, w.stages r = [])
    (hanswer : ∀ w : World, (w.answer r).2.cwd = w.cwd ∧ (w.answer r).2.disk = w.disk) :
    (request r).Quiet := by
  intro w s hs
  rcases of_mem_states_request (hstages w) hs with rfl | rfl
  · exact ⟨rfl, rfl⟩
  · exact hanswer w

/-- **One program after another respects what both respect.** -/
theorem Respects.bind {f : α → Program β} (hp : p.Respects v) (hf : ∀ a, (f a).Respects v) :
    (p >>= f).Respects v := by
  intro w hcwd htree s hs
  rcases mem_states_bind.mp hs with hs | hs
  · exact hp w hcwd htree s hs
  · have hmid := hp w hcwd htree _ (run_mem_states p w)
    exact hmid.trans (hf _ _ (hmid.cwd.trans hcwd) hmid.tree s hs)

end Program

namespace Attempt

variable {ε ε' α β : Type} {p : Attempt ε α} {v : Watch}

theorem respects_pure (a : α) : (pure a : Attempt ε α).run.Respects v :=
  (Program.quiet_pure (Except.ok a)).respects v

theorem respects_throw (e : ε) : (throw e : Attempt ε α).run.Respects v :=
  (Program.quiet_pure (Except.error e)).respects v

/-- **One program after another respects what both respect**, wherever it stops. -/
theorem respects_bind {f : α → Attempt ε β} (hp : p.run.Respects v)
    (hf : ∀ a, (f a).run.Respects v) : (p >>= f).run.Respects v := by
  rw [ExceptT.run_bind]
  refine hp.bind fun result => ?_
  cases result with
  | ok a => exact hf a
  | error e => exact respects_throw e

theorem respects_always {p : Program α} (h : p.Respects v) :
    (always p : Attempt ε α).run.Respects v :=
  h.bind fun a => respects_pure a

theorem respects_orFail (h : p.run.Respects v) (f : ε → ε') : (p.orFail f).run.Respects v :=
  h.bind fun result => by
    cases result with
    | ok a => exact respects_pure a
    | error e => exact respects_throw (f e)

end Attempt

end TwinTypes
