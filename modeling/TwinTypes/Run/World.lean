import TwinTypes.Disk.Operation
import TwinTypes.Run.Program

/-!
# Programs in a world of their own

A world is all that a program can act on: a disk, the directory it works in, what numbers temporary
files, and what it has written and reported. `World.answer` meets a request; `Program.run` meets all
requests of a program, and `Program.states` gives every state of the world on the way, also those in
the middle of a request that writes bytes.
-/

namespace TwinTypes

/-- The world of a program. -/
structure World where
  /-- The disk. -/
  disk : Disk
  /-- The directory in which relative paths begin. -/
  cwd : Location
  /-- The number of the process. -/
  process : Nat
  /-- The number of the next temporary file. -/
  counter : Nat
  /-- What is written in the place of the time. -/
  time : String
  /-- How events are reported; before that is said they are not. -/
  logger : Option Log.Logger
  /-- The pairs that an observer has been told of, in order. -/
  announced : List GeneratedPair
  /-- What has been written on the standard output. -/
  out : String
  /-- What has been written on the standard error. -/
  err : String
  deriving Inhabited

namespace World

/-- A world in which nothing has been done yet. -/
def start (disk : Disk) (cwd : Location) : World where
  disk := disk
  cwd := cwd
  process := 1000
  counter := 0
  time := "<time>"
  logger := none
  announced := []
  out := ""
  err := ""

/-- The world after an operation on its disk. -/
def change (w : World) (result : Except DiskError Disk) : Except DiskError Unit × World :=
  match result with
  | .ok disk => (.ok (), { w with disk := disk })
  | .error e => (.error e, w)

/-- The name of a temporary file. -/
def tempName (w : World) (name : String) (number : Nat) : String :=
  name ++ ".tmp." ++ toString w.process ++ "." ++ toString number

/-- Makes a temporary file under the first number from the given one on that is free. The disk has
fewer names than there are numbers to be tried. -/
def createTemp (w : World) (dir name : String) : Nat → Nat → Except DiskError String × World
  | 0, number => (.error .occupied, { w with counter := number })
  | fuel + 1, number =>
    let path := Path.join dir (w.tempName name number)
    match w.disk.createFile w.cwd path with
    | .ok disk => (.ok path, { w with disk := disk, counter := number + 1 })
    | .error .occupied => w.createTemp dir name fuel (number + 1)
    | .error e => (.error e, { w with counter := number + 1 })

/-- The line that an event is reported with, empty if it is not reported. -/
def eventLine (w : World) (e : Log.Event) : String :=
  match w.logger with
  | some logger => logger.line w.time e
  | none => ""

/-- **Meets a request.** -/
def answer (w : World) : (r : Request) → r.Response × World
  | .makeDir path => w.change (w.disk.makeDir w.cwd path)
  | .isDirectory path => (w.disk.isDirectory w.cwd path, w)
  | .isFile path => (w.disk.isFile w.cwd path, w)
  | .readFile path => (w.disk.readFile w.cwd path, w)
  | .list path => (w.disk.list w.cwd path, w)
  | .createTemp dir name => w.createTemp dir name (w.disk.entries.length + 1) w.counter
  | .append path bytes => w.change (w.disk.appendFile w.cwd path bytes)
  | .sync _ => (.ok (), w)
  | .rename source target => w.change (w.disk.renameFile w.cwd source target)
  | .remove path => w.change (w.disk.removeFile w.cwd path)
  | .startLog logger => ((), { w with logger := some (w.logger.getD logger) })
  | .report e => ((), { w with err := w.err ++ w.eventLine e })
  | .announce pair => ((), { w with announced := w.announced ++ [pair] })
  | .print text => ((), { w with out := w.out ++ text })
  | .complain text => ((), { w with err := w.err ++ text })

/-- The states of the world while a request is being met: bytes are written one after another. -/
def stages (w : World) : Request → List World
  | .append path bytes =>
    (List.range bytes.size).map fun n =>
      (w.change (w.disk.appendFile w.cwd path (bytes.extract 0 n))).2
  | _ => []

end World

namespace Program

variable {α : Type}

/-- **What becomes of a program in a world**, and of the world. -/
def run : Program α → World → α × World
  | done a, w => (a, w)
  | act r next, w =>
    let (response, w) := w.answer r
    (next response).run w

theorem run_pure (a : α) (w : World) : (pure a : Program α).run w = (a, w) :=
  rfl

/-- One program after another: the second one begins in the world that the first one leaves. -/
theorem run_bind {β : Type} (p : Program α) (f : α → Program β) (w : World) :
    (p >>= f).run w = (f (p.run w).1).run (p.run w).2 := by
  induction p generalizing w with
  | done a => rfl
  | act r next ih => exact ih (w.answer r).1 (w.answer r).2

/-- Every state of the world on the way, the first and the last included. -/
def states : Program α → World → List World
  | done _, w => [w]
  | act r next, w =>
    let (response, after) := w.answer r
    w :: w.stages r ++ (next response).states after

end Program

end TwinTypes
