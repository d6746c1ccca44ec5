import TwinTypes.Disk.State

/-!
# File operations

What the operations of the system do to a disk. Each names its object by a path from a working
directory and either succeeds or fails and changes nothing.
-/

namespace TwinTypes.Disk

/-- The names of a path, whatever slashes stand at its end. -/
def bareSteps (path : String) : List String :=
  (Path.pieces path).filter fun p => !p.isEmpty

/-- Whether the last of some names is one that every directory has. -/
def endsInDots (names : List String) : Bool :=
  names.isEmpty || names.getLast? == some "." || names.getLast? == some ".."

/-- Why a path that ends in dots is refused: for what is wrong with its directory, or else for the
given reason. -/
def dotsFailure (dots : DiskError) : Except DiskError Target → DiskError
  | .ok (.found _ .directory) => dots
  | .ok (.found _ _) => .notDirectory
  | .ok (.vacant _) => .notFound
  | .error e => e

/-- What a path names, links at its end not followed, whatever slashes stand there. A path that ends
in dots fails. -/
def resolveBare (d : Disk) (cwd : Location) (dots : DiskError) (path : String) :
    Except DiskError Target := do
  checkPath path
  let names := bareSteps path
  if endsInDots names then
    .error (dotsFailure dots (d.walk true linkLimit (origin cwd path) names.dropLast))
  else d.walk false linkLimit (origin cwd path) names

/-! ### Looking -/

/-- Whether a path names a directory. -/
def isDirectory (d : Disk) (cwd : Location) (path : String) : Bool :=
  match d.resolve cwd true path with
  | .ok (.found _ .directory) => true
  | _ => false

/-- Whether a path names a file. -/
def isFile (d : Disk) (cwd : Location) (path : String) : Bool :=
  match d.resolve cwd true path with
  | .ok (.found _ (.file _)) => true
  | _ => false

/-- The bytes of a file. -/
def readFile (d : Disk) (cwd : Location) (path : String) : Except DiskError ByteArray :=
  match d.resolve cwd true path with
  | .ok (.found _ (.file bytes)) => .ok bytes
  | .ok (.found _ .directory) => .error .isDirectory
  | .ok _ => .error .notFound
  | .error e => .error e

/-- The names in a directory, and whether each is a directory. -/
def names (d : Disk) (dir : Location) : List (String × Bool) :=
  (d.children dir).map fun c => (c.1, decide (c.2 = .directory))

/-- The names in a directory, in increasing order, and whether each is a directory. There are none
in what is no directory; a link to a directory is followed. -/
def list (d : Disk) (cwd : Location) (path : String) : Except DiskError (List (String × Bool)) :=
  match d.resolve cwd false path with
  | .ok (.found loc .directory) => .ok (d.names loc)
  | .ok (.found _ (.link _)) =>
    match d.resolve cwd true path with
    | .ok (.found loc .directory) => .ok (d.names loc)
    | .ok (.found _ _) => .ok []
    | .ok (.vacant _) => .error .notFound
    | .error e => .error e
  | .ok (.found _ (.file _)) => .ok []
  | .ok (.vacant _) => .error .notFound
  | .error e => .error e

/-! ### Changing -/

/-- Makes a directory in one that is there. -/
def makeDir (d : Disk) (cwd : Location) (path : String) : Except DiskError Disk :=
  match d.resolveBare cwd .occupied path with
  | .ok (.vacant loc) => .ok (d.put loc .directory)
  | .ok (.found _ _) => .error .occupied
  | .error e => .error e

/-- Makes an empty file where nothing is. -/
def createFile (d : Disk) (cwd : Location) (path : String) : Except DiskError Disk :=
  match d.resolve cwd false path with
  | .ok (.vacant loc) => .ok (d.put loc (.file .empty))
  | .ok (.found _ _) => .error .occupied
  | .error e => .error e

/-- Puts bytes at the end of a file. -/
def appendFile (d : Disk) (cwd : Location) (path : String) (bytes : ByteArray) :
    Except DiskError Disk :=
  match d.resolve cwd false path with
  | .ok (.found loc (.file before)) => .ok (d.put loc (.file (before ++ bytes)))
  | .ok (.found _ _) => .error .isDirectory
  | .ok (.vacant _) => .error .notFound
  | .error e => .error e

/-- Whether a path asks for a directory by a slash at its end. -/
def asksForDirectory (path : String) : Bool :=
  path.toList.getLast? == some '/'

/-- Moves a file to a path, in the place of a file or a link that is there. -/
def renameFile (d : Disk) (cwd : Location) (source target : String) : Except DiskError Disk := do
  let origin ← d.resolve cwd false source
  let goal ← d.resolveBare cwd .busy target
  match origin with
  | .vacant _ => .error .notFound
  | .found loc entry =>
    if asksForDirectory target then .error .notDirectory
    else
      match goal with
      | .found _ .directory => .error .isDirectory
      | .found place _ => .ok ((d.erase loc).put place entry)
      | .vacant place => .ok ((d.erase loc).put place entry)

/-- Removes a file or a link. -/
def removeFile (d : Disk) (cwd : Location) (path : String) : Except DiskError Disk :=
  match d.resolve cwd false path with
  | .ok (.found _ .directory) => .error .isDirectory
  | .ok (.found loc _) => .ok (d.erase loc)
  | .ok (.vacant _) => .error .notFound
  | .error e => .error e

end TwinTypes.Disk
