import Std.Time.DateTime
import TwinTypes.Disk.Path
import TwinTypes.Run.Program

/-!
# Programs for real

Meets the requests of a program by way of the system it runs on. Nothing is decided here: each
request becomes the operation of its name, and a failure becomes the `DiskError` of its number.
-/

namespace TwinTypes

/-- What has to be kept while a program runs. -/
structure Session where
  /-- How events are reported; before that is said they are not. -/
  logger : IO.Ref (Option Log.Logger)
  /-- The number of the next temporary file. -/
  counter : IO.Ref Nat
  /-- A number that other runs are unlikely to have. -/
  number : Nat

namespace Session

/-- A run that begins now. -/
def start : IO Session := do
  pure ⟨← IO.mkRef none, ← IO.mkRef 0, ← IO.monoNanosNow⟩

/-! ### Failures -/

/-- The number and the words of a failure. -/
def numbered : IO.Error → UInt32 × String
  | .alreadyExists _ n s | .otherError n s | .resourceBusy n s | .resourceVanished n s
  | .unsupportedOperation n s | .hardwareFault n s | .unsatisfiedConstraints n s
  | .illegalOperation n s | .protocolError n s | .timeExpired n s | .interrupted _ n s
  | .noFileOrDirectory _ n s | .invalidArgument _ n s | .permissionDenied _ n s
  | .resourceExhausted _ n s | .inappropriateType _ n s | .noSuchThing _ n s => (n, s)
  | .unexpectedEof => (0, "unexpected end of file")
  | .userError s => (0, s)

/-- A number that may have been given with its sign turned, as it is meant. -/
def unturned (n : UInt32) : UInt32 :=
  if n < 0x80000000 then n else 0 - n

/-- The failure of some number. -/
def failure (e : IO.Error) : DiskError :=
  let (number, words) := numbered e
  let number := unturned number
  if number = 2 then .notFound
  else if number = 16 then .busy
  else if number = 17 then .occupied
  else if number = 20 then .notDirectory
  else if number = 21 then .isDirectory
  else if number = 36 then .nameTooLong
  else if number = 40 then .tooManyLinks
  else .other (words ++ " (os error " ++ toString number ++ ")")

/-- What comes of an operation at a path. -/
def attempt {α : Type} (path : String) (action : IO α) : IO (Except DiskError α) :=
  if path.toList.contains '\x00' then pure (.error .nulInPath)
  else do
    match ← action.toBaseIO with
    | .ok a => pure (.ok a)
    | .error e => pure (.error (failure e))

/-! ### Looking -/

/-- A path as an entry of a directory, the form in which it can be asked about. -/
def entryAt (path : String) : IO.FS.DirEntry :=
  ⟨⟨path⟩, ""⟩

/-- Whether what a path names is of some type. -/
def hasType (path : String) (type : IO.FS.FileType) : IO Bool := do
  match ← attempt path (entryAt path).root.metadata with
  | .ok data => pure (data.type == type)
  | .error _ => pure false

/-- The name of an entry, and whether it is a directory. -/
def describe (entry : IO.FS.DirEntry) : IO (String × Bool) := do
  let data ← entry.path.symlinkMetadata
  pure (entry.fileName, data.type == .dir)

/-- The names in a directory, in increasing order. -/
def list (path : String) : IO (List (String × Bool)) := do
  let data ← (entryAt path).root.metadata
  if data.type == .dir then
    let names ← (← (entryAt path).root.readDir).toList.mapM describe
    pure (names.mergeSort fun a b => !decide (b.1 < a.1))
  else pure []

/-! ### Changing -/

/-- How many names are tried for a temporary file. -/
def tempTries : Nat :=
  1024

/-- Makes a temporary file under the first of some names that is free. -/
def createTemp (s : Session) (dir name : String) : Nat → IO (Except DiskError String)
  | 0 => pure (.error .occupied)
  | tries + 1 => do
    let n ← s.counter.modifyGet fun n => (n, n + 1)
    let path := Path.join dir (name ++ ".tmp." ++ toString s.number ++ "." ++ toString n)
    match ← attempt path (IO.FS.Handle.mk path .writeNew) with
    | .ok _ => pure (.ok path)
    | .error .occupied => createTemp s dir name tries
    | .error e => pure (.error e)

/-- Puts bytes at the end of a file. -/
def append (path : String) (bytes : ByteArray) : IO Unit := do
  let file ← IO.FS.Handle.mk path .append
  file.write bytes
  file.flush

/-! ### Reporting -/

/-- A number in at least so many digits. -/
def padded (width n : Nat) : String :=
  let digits := toString n
  String.ofList (List.replicate (width - digits.length) '0') ++ digits

/-- The time of now. -/
def now : IO String := do
  let t := Std.Time.DateTime.ofTimestamp (← Std.Time.Timestamp.now) .UTC
  pure (padded 4 t.year.toInt.toNat ++ "-" ++ padded 2 t.month.toNat ++ "-"
    ++ padded 2 t.day.toNat ++ "T" ++ padded 2 t.hour.toNat ++ ":" ++ padded 2 t.minute.toNat ++ ":"
    ++ padded 2 t.second.toNat ++ "." ++ padded 6 (t.nanosecond.toNat / 1000) ++ "Z")

/-- Writes on a stream at once. -/
def put (stream : IO.FS.Stream) (text : String) : IO Unit := do
  stream.putStr text
  stream.flush

/-- Reports an event. -/
def report (s : Session) (e : Log.Event) : IO Unit := do
  match ← s.logger.get with
  | some logger => put (← IO.getStderr) (logger.line (← now) e)
  | none => pure ()

/-! ### Requests -/

/-- **Meets a request.** -/
def answer (s : Session) : (r : Request) → IO r.Response
  | .makeDir path => attempt path (IO.FS.createDir path)
  | .isDirectory path => hasType path .dir
  | .isFile path => hasType path .file
  | .readFile path => attempt path (IO.FS.readBinFile path)
  | .list path => attempt path (list path)
  | .createTemp dir name => s.createTemp dir name tempTries
  | .append path bytes => attempt path (append path bytes)
  | .sync _ => pure (.ok ())
  | .rename source target => attempt target (IO.FS.rename source target)
  | .remove path => attempt path (IO.FS.removeFile path)
  | .startLog logger => s.logger.modify fun before => some (before.getD logger)
  | .report e => s.report e
  | .announce _ => pure ()
  | .print text => do put (← IO.getStdout) text
  | .complain text => do put (← IO.getStderr) text

end Session

/-- **Runs a program.** -/
def Program.perform {α : Type} (s : Session) : Program α → IO α
  | done a => pure a
  | act r next => do
    let response ← s.answer r
    (next response).perform s

end TwinTypes
