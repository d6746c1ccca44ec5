import TwinTypes.Disk.Error
import TwinTypes.Disk.Path

/-!
# Disks

A disk is a table from locations to what stands there. The table is in increasing order of
locations and has one entry for each, so two disks that hold the same are equal.

`Disk.resolve` follows a path from a directory, link by link. It finds what the path names, or the
vacant place that it names in a directory that is there.
-/

namespace TwinTypes

/-- A place on a disk: the names that lead to it from the root. -/
abbrev Location : Type :=
  List String

/-- What stands at a location. -/
inductive Entry where
  /-- A directory. -/
  | directory
  /-- A file and its bytes. -/
  | file (bytes : ByteArray)
  /-- A link to a path. -/
  | link (target : String)
  deriving Inhabited

instance : DecidableEq Entry
  | .directory, .directory => isTrue rfl
  | .file a, .file b =>
    match ByteArray.instDecidableEq a b with
    | isTrue same => isTrue (congrArg Entry.file same)
    | isFalse differ => isFalse fun same => differ (Entry.file.inj same)
  | .link a, .link b =>
    match decEq a b with
    | isTrue same => isTrue (congrArg Entry.link same)
    | isFalse differ => isFalse fun same => differ (Entry.link.inj same)
  | .directory, .file _ | .directory, .link _ => isFalse nofun
  | .file _, .directory | .file _, .link _ => isFalse nofun
  | .link _, .directory | .link _, .file _ => isFalse nofun

/-- A disk: what stands where, in increasing order of locations. The root is always a directory and
has no entry. -/
structure Disk where
  /-- What stands where. -/
  entries : List (Location × Entry)
  deriving DecidableEq, Inhabited

namespace Disk

/-! ### The table -/

/-- The disk with nothing on it. -/
def empty : Disk :=
  ⟨[]⟩

/-- What stands at a location. -/
def get? (d : Disk) (loc : Location) : Option Entry :=
  if loc.isEmpty then some .directory
  else (d.entries.find? fun e => e.1 == loc).map Prod.snd

/-- Adds an entry to a table in order, in the place of one for the same location. -/
def insertEntry (loc : Location) (entry : Entry) :
    List (Location × Entry) → List (Location × Entry)
  | [] => [(loc, entry)]
  | e :: rest =>
    if loc < e.1 then (loc, entry) :: e :: rest
    else if loc = e.1 then (loc, entry) :: rest
    else e :: insertEntry loc entry rest

/-- The disk with something at a location. -/
def put (d : Disk) (loc : Location) (entry : Entry) : Disk :=
  ⟨insertEntry loc entry d.entries⟩

/-- The disk without what stands at a location. -/
def erase (d : Disk) (loc : Location) : Disk :=
  ⟨d.entries.filter fun e => e.1 != loc⟩

/-- The disk without what stands at a location and below it. -/
def eraseTree (d : Disk) (loc : Location) : Disk :=
  ⟨d.entries.filter fun e => !loc.isPrefixOf e.1⟩

/-- The name of a location in a directory. -/
def childName (dir loc : Location) : Option String :=
  if dir.isPrefixOf loc then
    match loc.drop dir.length with
    | [name] => some name
    | _ => none
  else none

/-- What a directory holds, in increasing order of names. -/
def children (d : Disk) (dir : Location) : List (String × Entry) :=
  d.entries.filterMap fun e => (childName dir e.1).map fun name => (name, e.2)

/-! ### Following paths -/

/-- What a path names. -/
inductive Target where
  /-- Something that is there. -/
  | found (loc : Location) (entry : Entry)
  /-- A vacant place in a directory that is there. -/
  | vacant (loc : Location)
  deriving DecidableEq

/-- How many bytes a name may have. -/
def nameLimit : Nat :=
  255

/-- How many bytes a path may have. -/
def pathLimit : Nat :=
  4095

/-- How many links a path may go through. -/
def linkLimit : Nat :=
  40

/-- The names that a path is followed by. A slash at the end asks for a directory, as a dot does. -/
def steps (path : String) : List String :=
  let names := (Path.pieces path).filter fun p => !p.isEmpty
  if path.toList.getLast? = some '/' ∧ !names.isEmpty then names ++ ["."] else names

/-- Follows names from a location up to a link that is to be followed; `jump` goes on from there,
given the directory that the link is read in and the names to follow. If `follow` is not set, a link
at the end is not followed. -/
def walkNames (d : Disk) (follow : Bool) (jump : Location → List String → Except DiskError Target)
    (here : Location) (names : List String) : Except DiskError Target :=
  match names with
  | [] =>
    match d.get? here with
    | some entry => .ok (.found here entry)
    | none => .error .notFound
  | name :: rest =>
    if d.get? here ≠ some .directory then .error .notDirectory
    else if name = "." then walkNames d follow jump here rest
    else if name = ".." then walkNames d follow jump here.dropLast rest
    else if nameLimit < name.utf8ByteSize then .error .nameTooLong
    else
      match d.get? (here ++ [name]) with
      | none => if rest.isEmpty then .ok (.vacant (here ++ [name])) else .error .notFound
      | some (.link target) =>
        if rest.isEmpty && !follow then .ok (.found (here ++ [name]) (.link target))
        else jump (if Path.isAbsolute target then [] else here) (steps target ++ rest)
      | some _ => walkNames d follow jump (here ++ [name]) rest

/-- Follows names from a location, through at most so many links. If `follow` is not set, a link at
the end is not followed. -/
def walk (d : Disk) (follow : Bool) :
    (links : Nat) → (here : Location) → (names : List String) → Except DiskError Target
  | 0 => d.walkNames follow fun _ _ => .error .tooManyLinks
  | links + 1 => d.walkNames follow (d.walk follow links)

/-- What no path may be. -/
def checkPath (path : String) : Except DiskError Unit :=
  if path.toList.contains '\x00' then .error .nulInPath
  else if path.isEmpty then .error .notFound
  else if pathLimit < path.utf8ByteSize then .error .nameTooLong
  else .ok ()

/-- Where a path begins. -/
def origin (cwd : Location) (path : String) : Location :=
  if Path.isAbsolute path then [] else cwd

/-- What a path names, from a working directory. -/
def resolve (d : Disk) (cwd : Location) (follow : Bool) (path : String) :
    Except DiskError Target := do
  checkPath path
  d.walk follow linkLimit (origin cwd path) (steps path)

end Disk

end TwinTypes
