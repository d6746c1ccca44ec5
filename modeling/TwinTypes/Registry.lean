import TwinTypes.Builtin

/-!
# The table of known types

A registry holds at most one descriptor for a name, in increasing order of names, so that looking a
name up never has to choose. A name that the table does not hold is looked up as an empty class:
lookups never fail.
-/

namespace TwinTypes

/-- A table of type shapes, one for each name it knows, in increasing order of names. -/
structure Registry where
  /-- The shapes, in increasing order of names. -/
  entries : List Descriptor
  deriving DecidableEq, Repr, Inhabited

namespace Registry

/-- Adds a shape to shapes in increasing order of names, in the place of one of the same name. -/
def insertEntry (d : Descriptor) : List Descriptor → List Descriptor
  | [] => [d]
  | e :: rest =>
    if d.name < e.name then d :: e :: rest
    else if d.name = e.name then d :: rest
    else e :: insertEntry d rest

/-- The table that knows nothing. -/
def empty : Registry :=
  ⟨[]⟩

/-- The table with one shape more; it replaces a shape of the same name. -/
def insert (r : Registry) (d : Descriptor) : Registry :=
  ⟨insertEntry d r.entries⟩

/-- The table of a list of shapes; a later one replaces an earlier one of the same name. -/
def ofDescriptors (ds : List Descriptor) : Registry :=
  ds.foldl insert empty

/-- The table of the Java and Kotlin standard types. -/
def builtin : Registry :=
  ofDescriptors Builtin.types

/-- The shape of a name, if it is known. -/
def get (r : Registry) (name : String) : Option Descriptor :=
  r.entries.find? fun d => d.name == name

/-- Whether a name is known. -/
def contains (r : Registry) (name : String) : Bool :=
  r.entries.any fun d => d.name == name

/-- The shape of a name; an empty class if the name is unknown. -/
def lookup (r : Registry) (name : String) : Descriptor :=
  (r.get name).getD (Descriptor.empty name)

/-- The known names, in increasing order. -/
def names (r : Registry) : List String :=
  r.entries.map Descriptor.name

/-- How many names are known. -/
def size (r : Registry) : Nat :=
  r.entries.length

/-- Whether no name is known. -/
def isEmpty (r : Registry) : Bool :=
  r.entries.isEmpty

end Registry

end TwinTypes
