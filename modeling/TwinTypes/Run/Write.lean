import TwinTypes.Disk.Path
import TwinTypes.Run.Program

/-!
# Writing files whole

`atomicWrite` puts a text where a path says in such a way that whoever looks sees what was there
before or the whole text, and nothing in between: the text goes into a file of another name first,
and that file is then moved in one step. If anything fails on the way the other file is removed.
-/

namespace TwinTypes

/-- The part of the program that reports what is written and read back. -/
def genTarget : String :=
  "ktmap.gen"

/-- Why something could not be generated or indexed. -/
inductive GenError where
  /-- A file operation failed at a path. -/
  | io (path : String) (source : DiskError)
  /-- The directory at a path could not be listed. -/
  | scan (path : String) (source : DiskError)
  deriving DecidableEq, Repr, Inhabited

namespace GenError

/-- The words about a failed operation while a directory is listed. -/
def walkMessage (path : String) (source : DiskError) : String :=
  "IO error for operation on " ++ path ++ ": " ++ source.message

/-- What failed, and below it what made it fail, in words. -/
def chain : GenError → List String
  | io path source => ["I/O error at " ++ path ++ ": " ++ source.message, source.message]
  | scan path source =>
    ["I/O error at " ++ path ++ ": " ++ walkMessage path source, walkMessage path source,
      source.message]

/-- What failed, in words. -/
def message (e : GenError) : String :=
  e.chain.headD ""

end GenError

/-! ### Directories -/

/-- Goes on if there is a directory, and fails otherwise. -/
def unlessDirectory (path : String) (e : DiskError) : Attempt DiskError Unit := do
  if ← Attempt.always (isDirectory path) then pure () else throw e

/-- Makes the first of some directories, each in the one after it, with those that are missing. -/
def createDirsAlong : List String → Attempt DiskError Unit
  | [] => pure ()
  | path :: rest =>
    if path.isEmpty then pure ()
    else do
      match ← Attempt.always (makeDir path) with
      | .ok _ => pure ()
      | .error .notFound => do
        createDirsAlong rest
        match ← Attempt.always (makeDir path) with
        | .ok _ => pure ()
        | .error e => unlessDirectory path e
      | .error e => unlessDirectory path e

/-- **Makes a directory**, with the directories on the way to it. -/
def createDirs (path : String) : Attempt DiskError Unit :=
  createDirsAlong (Path.ancestors path)

/-! ### Files -/

/-- The directory that holds what a path names. -/
def parentDir (path : String) : String :=
  match Path.parent path with
  | some parent => if parent.isEmpty then "." else parent
  | none => "."

/-- Writes bytes into an empty file and moves it to a path. -/
def fillAndMove (temp path : String) (bytes : ByteArray) : Attempt DiskError Unit := do
  Attempt.ofProgram (Program.request (.append temp bytes))
  Attempt.ofProgram (Program.request (.sync temp))
  Attempt.ofProgram (Program.request (.rename temp path))

/-- Removes a temporary file. If it cannot be removed that is reported. -/
def discard (temp : String) : Program Unit := do
  match ← Program.request (.remove temp) with
  | .ok _ => pure ()
  | .error .notFound => pure ()
  | .error e =>
    report ⟨.debug, genTarget, "failed to remove temporary file after write failure",
      [("path", .text temp), ("error", .text e.message)]⟩

/-- **Writes a file whole.** -/
def atomicWrite (path : String) (bytes : ByteArray) : Attempt GenError Unit := do
  let parent := parentDir path
  (createDirs parent).orFail (.io parent)
  match Path.fileName path with
  | none => throw (.io path .noFileName)
  | some name => do
    let temp ← (Attempt.ofProgram (Program.request (.createTemp parent name))).orFail (.io path)
    match ← (fillAndMove temp path bytes).outcome with
    | .ok _ => pure ()
    | .error e => do
      Attempt.always (discard temp)
      throw (.io path e)

/-- Writes a text whole. -/
def atomicWriteText (path text : String) : Attempt GenError Unit :=
  atomicWrite path text.toUTF8

end TwinTypes
