import TwinTypes.Artifact
import TwinTypes.Config.Logging
import TwinTypes.Disk.Error

/-!
# Programs

What a run does to the world around it, as a value. A program is finished, or makes a request and
goes on with the response. Nothing is said here of how requests are met: a disk in memory meets them
in `TwinTypes.Run.World`, the system meets them when the program is run for real. So whatever is
proved of every prefix of the requests of a program holds of the program wherever it runs.
-/

namespace TwinTypes

/-- A request to the world. -/
inductive Request where
  /-- Make a directory in one that is there. -/
  | makeDir (path : String)
  /-- Say whether there is a directory. -/
  | isDirectory (path : String)
  /-- Say whether there is a file. -/
  | isFile (path : String)
  /-- Give the bytes of a file. -/
  | readFile (path : String)
  /-- Give the names in a directory in increasing order, and whether each is a directory. -/
  | list (path : String)
  /-- Make an empty file in a directory, under a name made of the given one that nothing has, and
  give its path. -/
  | createTemp (dir name : String)
  /-- Put bytes at the end of a file. -/
  | append (path : String) (bytes : ByteArray)
  /-- See to it that a file outlasts a loss of power. -/
  | sync (path : String)
  /-- Move a file in the place of what is there. -/
  | rename (source target : String)
  /-- Remove a file. -/
  | remove (path : String)
  /-- Report events from now on. -/
  | startLog (logger : Log.Logger)
  /-- Report an event. -/
  | report (e : Log.Event)
  /-- Tell an observer that the files of a pair have been written. -/
  | announce (pair : GeneratedPair)
  /-- Write on the standard output. -/
  | print (text : String)
  /-- Write on the standard error. -/
  | complain (text : String)

/-- The type of the response to a request. -/
def Request.Response : Request → Type
  | makeDir _ => Except DiskError Unit
  | isDirectory _ => Bool
  | isFile _ => Bool
  | readFile _ => Except DiskError ByteArray
  | list _ => Except DiskError (List (String × Bool))
  | createTemp _ _ => Except DiskError String
  | append _ _ => Except DiskError Unit
  | sync _ => Except DiskError Unit
  | rename _ _ => Except DiskError Unit
  | remove _ => Except DiskError Unit
  | startLog _ => Unit
  | report _ => Unit
  | announce _ => Unit
  | print _ => Unit
  | complain _ => Unit

/-- A program. -/
inductive Program (α : Type) where
  /-- It is finished. -/
  | done (a : α)
  /-- It makes a request and goes on with the response. -/
  | act (r : Request) (next : r.Response → Program α)

namespace Program

variable {α β : Type}

/-- One program after another. -/
def andThen (p : Program α) (f : α → Program β) : Program β :=
  match p with
  | done a => f a
  | act r next => act r fun response => (next response).andThen f

instance : Monad Program where
  pure := done
  bind := andThen

theorem andThen_done (p : Program α) : p.andThen done = p := by
  induction p with
  | done a => rfl
  | act r next ih => exact congrArg (act r) (funext ih)

theorem andThen_assoc {γ : Type} (p : Program α) (f : α → Program β) (g : β → Program γ) :
    (p.andThen f).andThen g = p.andThen fun a => (f a).andThen g := by
  induction p with
  | done a => rfl
  | act r next ih => exact congrArg (act r) (funext ih)

instance : LawfulMonad Program :=
  LawfulMonad.mk' Program andThen_done (fun _ _ => rfl) andThen_assoc

/-- A single request. -/
def request (r : Request) : Program r.Response :=
  act r done

end Program

/-- A program that may fail. -/
abbrev Attempt (ε α : Type) : Type :=
  ExceptT ε Program α

namespace Attempt

variable {ε ε' α : Type}

/-- Goes on with a response, which may be a failure. -/
def ofProgram (p : Program (Except ε α)) : Attempt ε α :=
  ExceptT.mk p

/-- The same program with its failures put in another way. -/
def orFail (p : Attempt ε α) (f : ε → ε') : Attempt ε' α :=
  ExceptT.mk (do
    match ← p.run with
    | .ok a => pure (.ok a)
    | .error e => pure (.error (f e)))

/-- What becomes of a program, failure or not. -/
def outcome (p : Attempt ε α) : Attempt ε' (Except ε α) :=
  ExceptT.mk (do
    let result ← p.run
    pure (.ok result))

/-- A program that does not fail. -/
def always (p : Program α) : Attempt ε α :=
  ExceptT.mk (do
    let a ← p
    pure (.ok a))

end Attempt

/-! ### Requests -/

/-- Makes a directory in one that is there. -/
def makeDir (path : String) : Program (Except DiskError Unit) :=
  .request (.makeDir path)

/-- Whether there is a directory. -/
def isDirectory (path : String) : Program Bool :=
  .request (.isDirectory path)

/-- Whether there is a file. -/
def isFile (path : String) : Program Bool :=
  .request (.isFile path)

/-- Reports an event. -/
def report (e : Log.Event) : Program Unit :=
  .request (.report e)

/-- Tells an observer that the files of a pair have been written. -/
def announce (pair : GeneratedPair) : Program Unit :=
  .request (.announce pair)

/-- Writes on the standard output. -/
def print (text : String) : Program Unit :=
  .request (.print text)

/-- Writes a line on the standard output. -/
def printLine (text : String) : Program Unit :=
  print (text ++ "\n")

/-- The text in a file. -/
def readText (path : String) : Attempt DiskError String :=
  ExceptT.mk (do
    match ← Program.request (.readFile path) with
    | .ok bytes => match String.fromUTF8? bytes with
      | some text => pure (.ok text)
      | none => pure (.error .notText)
    | .error e => pure (.error e))

end TwinTypes
