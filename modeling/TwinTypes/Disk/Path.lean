/-!
# Paths

A path is a text with slashes between its pieces. An empty piece says nothing, and neither does a
dot, unless it comes first; so `a//b`, `a/./b` and `a/b/` all have the components of `a/b`. Taking
the parent of a path or joining two never rewrites the pieces that remain.
-/

namespace TwinTypes.Path

/-- A component of a path. -/
inductive Component where
  /-- The slash at the front. -/
  | root
  /-- The dot at the front. -/
  | here
  /-- Two dots. -/
  | up
  /-- A name. -/
  | normal (name : String)
  deriving DecidableEq, Repr, Inhabited

/-- The pieces between the slashes of a text, given the piece read so far, last character first. -/
def splitFrom (word : List Char) : List Char → List (List Char)
  | [] => [word.reverse]
  | c :: rest => if c = '/' then word.reverse :: splitFrom [] rest else splitFrom (c :: word) rest

/-- The pieces between the slashes of a path; always at least one. -/
def pieces (path : String) : List String :=
  (splitFrom [] path.toList).map String.ofList

/-- Whether a path begins at the root. -/
def isAbsolute (path : String) : Bool :=
  path.toList.head? == some '/'

/-- Whether a piece says nothing; `first` says that it is the first one. -/
def isIdle (first : Bool) (piece : String) : Bool :=
  piece.isEmpty || (piece == "." && !first)

/-- The component that a piece stands for; `first` says that it is the first one. -/
def componentOf (first : Bool) (piece : String) : Option Component :=
  if isIdle first piece then none
  else if piece = "." then some .here
  else if piece = ".." then some .up
  else some (.normal piece)

/-- The components of a path. -/
def components (path : String) : List Component :=
  match pieces path with
  | [] => []
  | first :: rest =>
    (if isAbsolute path then [.root] else []) ++ (componentOf true first).toList
      ++ rest.filterMap (componentOf false)

/-- Pieces without the ones at the end that say nothing, given last first. -/
def dropIdle : List String → List String
  | [] => []
  | [first] => if isIdle true first then [] else [first]
  | piece :: before => if isIdle false piece then dropIdle before else piece :: before

/-- The path of pieces that are given last first. -/
def ofReversed (absolute : Bool) (reversed : List String) : String :=
  match reversed with
  | [] => if absolute then "/" else ""
  | _ => String.intercalate "/" reversed.reverse

/-- The pieces of a path, the last first, without the ones at the end that say nothing. -/
def reversedPieces (path : String) : List String :=
  dropIdle (pieces path).reverse

/-- The path without its last component; none if there is no component but the root. -/
def parent (path : String) : Option String :=
  match reversedPieces path with
  | [] => none
  | _ :: before => some (ofReversed (isAbsolute path) (dropIdle before))

/-- The last component of a path, if it is a name. -/
def fileName (path : String) : Option String :=
  match reversedPieces path with
  | [] => none
  | last :: _ => if last = "." ∨ last = ".." then none else some last

/-- The paths that lead to a path, the nearest first, given its pieces last first. -/
def ancestorsOf (absolute : Bool) : Nat → List String → List String
  | 0, _ => []
  | _, [] => [ofReversed absolute []]
  | fuel + 1, piece :: before =>
    ofReversed absolute (piece :: before) :: ancestorsOf absolute fuel (dropIdle before)

/-- A path and the paths that lead to it, the nearest first. -/
def ancestors (path : String) : List String :=
  match reversedPieces path with
  | [] => [path]
  | _ :: before =>
    path :: ancestorsOf (isAbsolute path) (before.length + 1) (dropIdle before)

/-- The path of something below a directory; a path from the root stays as it is. -/
def join (base path : String) : String :=
  if isAbsolute path then path
  else if base.isEmpty || base.toList.getLast? == some '/' then base ++ path
  else base ++ "/" ++ path

end TwinTypes.Path
