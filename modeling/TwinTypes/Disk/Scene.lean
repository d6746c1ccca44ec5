import TwinTypes.Disk.Operation

/-!
# Setting a scene

Bigger changes to a disk than the system makes in one operation, for putting a disk into a state,
and a view of everything below a path.
-/

namespace TwinTypes.Disk

/-- Makes the first of some directories, each in the one after it, with those that are missing. -/
def makeDirsAlong (d : Disk) (cwd : Location) : List String → Except DiskError Disk
  | [] => .ok d
  | path :: rest =>
    if path.isEmpty || d.isDirectory cwd path then .ok d
    else do
      let d ← d.makeDirsAlong cwd rest
      d.makeDir cwd path

/-- Makes a directory with the directories on the way to it. -/
def makeDirs (d : Disk) (cwd : Location) (path : String) : Except DiskError Disk :=
  d.makeDirsAlong cwd (Path.ancestors path)

/-- Makes the directories on the way to a path. -/
def makeParents (d : Disk) (cwd : Location) (path : String) : Except DiskError Disk :=
  match Path.parent path with
  | some parent => d.makeDirs cwd parent
  | none => .ok d

/-- Writes a file, with the directories on the way to it. A link is followed. -/
def writeFile (d : Disk) (cwd : Location) (path : String) (bytes : ByteArray) :
    Except DiskError Disk := do
  let d ← d.makeParents cwd path
  match ← d.resolve cwd true path with
  | .found _ .directory => .error .isDirectory
  | .found loc _ => .ok (d.put loc (.file bytes))
  | .vacant loc => .ok (d.put loc (.file bytes))

/-- Makes a link, with the directories on the way to it. -/
def makeLink (d : Disk) (cwd : Location) (path target : String) : Except DiskError Disk := do
  let d ← d.makeParents cwd path
  match ← d.resolve cwd false path with
  | .found _ _ => .error .occupied
  | .vacant loc => .ok (d.put loc (.link target))

/-- Removes what a path names, with everything below it. -/
def removeTree (d : Disk) (cwd : Location) (path : String) : Except DiskError Disk := do
  match ← d.resolve cwd false path with
  | .found loc _ => .ok (d.eraseTree loc)
  | .vacant _ => .error .notFound

/-- Everything below the directory that a path names, by the names that lead from it. -/
def below (d : Disk) (cwd : Location) (path : String) : List (List String × Entry) :=
  match d.resolve cwd true path with
  | .ok (.found loc _) =>
    d.entries.filterMap fun e =>
      if loc.isPrefixOf e.1 && e.1 != loc then some (e.1.drop loc.length, e.2) else none
  | _ => []

/-- A disk with nothing on it but a directory to work in. -/
def workspace (cwd : Location) : Disk :=
  (List.range cwd.length).foldl (fun d n => d.put (cwd.take (n + 1)) .directory) .empty

end TwinTypes.Disk
