import TwinTypes.Proofs.Disk.Change
import TwinTypes.Run.World

/-!
# What a program does to its world

Programs are put together by `bind`, and a program that may fail stops at its first failure. The
first part of this file says so of runs (`Attempt.run_bind` and its companions), so that a program
is run by rewriting.

The second part bounds what a run may do. `TwinTypes.World.Edits` carries the bounds of
`TwinTypes.Disk.Changes` over to worlds, and adds that nothing is made known. Like the change of a
disk it is closed under one run after another.
-/

namespace TwinTypes

/-! ### Running programs that may fail -/

namespace Attempt

variable {ε ε' α β : Type}

@[simp] theorem run_pure (a : α) (w : World) : (pure a : Attempt ε α).run.run w = (.ok a, w) := rfl

/-- **One program after another**: the second one runs in the world that the first one leaves,
unless that one has failed. -/
theorem run_bind (p : Attempt ε α) (f : α → Attempt ε β) (w : World) :
    (p >>= f).run.run w =
      match p.run.run w with
      | (.ok a, w') => (f a).run.run w'
      | (.error e, w') => (.error e, w') := by
  rw [ExceptT.run_bind, Program.run_bind]
  rcases hp : p.run.run w with ⟨e | a, w'⟩ <;> rfl

theorem run_bind_ok {p : Attempt ε α} {f : α → Attempt ε β} {w w' : World} {a : α}
    (h : p.run.run w = (.ok a, w')) : (p >>= f).run.run w = (f a).run.run w' := by
  rw [run_bind, h]

theorem run_bind_error {p : Attempt ε α} {f : α → Attempt ε β} {w w' : World} {e : ε}
    (h : p.run.run w = (.error e, w')) : (p >>= f).run.run w = (.error e, w') := by
  rw [run_bind, h]

/-- A program whose result is only put into another form. -/
theorem run_bind_pure (p : Attempt ε α) (f : α → β) (w : World) :
    (p >>= fun a => pure (f a)).run.run w = ((p.run.run w).1.map f, (p.run.run w).2) := by
  rw [run_bind]
  rcases p.run.run w with ⟨e | a, w'⟩ <;> rfl

theorem run_always (p : Program α) (w : World) :
    (always p : Attempt ε α).run.run w = (.ok (p.run w).1, (p.run w).2) := by
  unfold always
  rw [ExceptT.run_mk, Program.run_bind]
  rfl

/-- A program that does not fail is followed by the next one. -/
theorem run_always_bind (p : Program α) (f : α → Attempt ε β) (w : World) :
    ((always p : Attempt ε α) >>= f).run.run w = (f (p.run w).1).run.run (p.run w).2 := by
  rw [run_bind, run_always]

theorem run_orFail_ok {p : Attempt ε α} {f : ε → ε'} {w w' : World} {a : α}
    (h : p.run.run w = (.ok a, w')) : (p.orFail f).run.run w = (.ok a, w') := by
  unfold orFail
  rw [ExceptT.run_mk, Program.run_bind, h]
  rfl

theorem run_orFail_error {p : Attempt ε α} {f : ε → ε'} {w w' : World} {e : ε}
    (h : p.run.run w = (.error e, w')) : (p.orFail f).run.run w = (.error (f e), w') := by
  unfold orFail
  rw [ExceptT.run_mk, Program.run_bind, h]
  rfl

theorem run_outcome_bind (p : Attempt ε α) (f : Except ε α → Attempt ε' β) (w : World) :
    ((p.outcome : Attempt ε' (Except ε α)) >>= f).run.run w =
      (f (p.run.run w).1).run.run (p.run.run w).2 := by
  rw [run_bind]
  unfold outcome
  rw [ExceptT.run_mk, Program.run_bind]
  rfl

end Attempt

theorem Program.run_request (r : Request) (w : World) : (Program.request r).run w = w.answer r :=
  rfl

/-- A run that is known to succeed has a result. -/
theorem exists_of_isOk {ε α : Type} {run : Except ε α × World} (h : run.1.isOk = true) :
    ∃ a w', run = (.ok a, w') := by
  obtain ⟨e | a, w'⟩ := run
  · cases h
  · exact ⟨a, w', rfl⟩

/-! ### Bounded effects -/

/-- What a run has made known: the pairs that its observer has been told of, and its output. -/
def World.seen (w : World) : List GeneratedPair × String :=
  (w.announced, w.out)

/-- **An effect within bounds**: directories and files come about on the disk at some places alone,
and nothing is made known. -/
structure World.Edits (dirs files : Set Location) (w w' : World) : Prop where
  /-- The program works in the same directory. -/
  cwd : w'.cwd = w.cwd
  /-- Nothing has been made known. -/
  seen : w'.seen = w.seen
  /-- What happened to the disk. -/
  disk : w.disk.Changes dirs files w'.disk

namespace World.Edits

variable {dirs files : Set Location} {w w' w'' : World}

theorem refl (h : w.disk.IsTree) : w.Edits dirs files w :=
  ⟨rfl, rfl, .refl h⟩

theorem tree (h : w.Edits dirs files w') : w'.disk.IsTree :=
  h.disk.tree

theorem mono {dirs' files' : Set Location} (h : w.Edits dirs files w') (hdirs : dirs ⊆ dirs')
    (hfiles : files ⊆ files') : w.Edits dirs' files' w' :=
  ⟨h.cwd, h.seen, h.disk.mono hdirs hfiles⟩

theorem trans (h : w.Edits dirs files w') (h' : w'.Edits dirs files w'') :
    w.Edits dirs files w'' :=
  ⟨h'.cwd.trans h.cwd, h'.seen.trans h.seen, h.disk.trans h'.disk⟩

/-- What could be read outside the bounds can be read afterwards. -/
theorem readFile (h : w.Edits dirs files w') (ht : w.disk.IsTree) {path : String}
    {bytes : ByteArray} (hread : w.disk.readFile w.cwd path = .ok bytes)
    (hloc : Disk.placeOf w.cwd path ∉ files) : w'.disk.readFile w'.cwd path = .ok bytes := by
  rw [h.cwd]
  exact h.disk.readFile ht hread hloc

end World.Edits

/-- **An effect on the log alone.** -/
structure World.Logs (w w' : World) : Prop where
  /-- The program works in the same directory. -/
  cwd : w'.cwd = w.cwd
  /-- The disk is as it was. -/
  disk : w'.disk = w.disk
  /-- Nothing has been made known. -/
  seen : w'.seen = w.seen

namespace World.Logs

variable {w w' w'' : World}

theorem refl (w : World) : w.Logs w :=
  ⟨rfl, rfl, rfl⟩

theorem trans (h : w.Logs w') (h' : w'.Logs w'') : w.Logs w'' :=
  ⟨h'.cwd.trans h.cwd, h'.disk.trans h.disk, h'.seen.trans h.seen⟩

/-- Such an effect is within all bounds. -/
theorem edits (h : w.Logs w') (ht : w.disk.IsTree) (dirs files : Set Location) :
    w.Edits dirs files w' where
  cwd := h.cwd
  seen := h.seen
  disk := by
    rw [h.disk]
    exact .refl ht

end World.Logs

theorem logs_report (e : Log.Event) (w : World) : w.Logs ((report e).run w).2 :=
  ⟨rfl, rfl, rfl⟩

end TwinTypes
