import TwinTypes.Name

/-!
# The shape of a type

What is known of one Kotlin or Java type: its kind, the supertype it declares and the names of its
members. Member lists keep their declaration order and their repeats.
-/

namespace TwinTypes

/-- The two kinds of declaration. -/
inductive Kind where
  /-- A class. -/
  | classKind
  /-- An interface. -/
  | interfaceKind
  deriving DecidableEq, Repr, Inhabited

namespace Kind

/-- The keyword that declares this kind, the same in Java and in Kotlin. -/
def keyword : Kind → String
  | classKind => "class"
  | interfaceKind => "interface"

/-- The kinds in the order in which messages list them. -/
def all : List Kind :=
  [classKind, interfaceKind]

/-- The kind that a keyword declares. -/
def ofKeyword (word : String) : Option Kind :=
  all.find? fun kind => kind.keyword == word

end Kind

/-- The shape of a single type. A type without a property list is told apart from a type whose list
is empty, although both have no properties. -/
structure Descriptor where
  /-- The qualified name. -/
  name : String
  /-- Class or interface. -/
  kind : Kind
  /-- The supertype, as it is to be shown; it is never looked up. -/
  supertype : Option String
  /-- The names of the methods. -/
  methods : List String
  /-- The names of the properties, if the type declares a property list. -/
  properties : Option (List String)
  deriving DecidableEq, Repr, Inhabited

namespace Descriptor

/-- A class of which nothing but the name is known. -/
def empty (name : String) : Descriptor where
  name := name
  kind := .classKind
  supertype := none
  methods := []
  properties := none

/-- Whether the type is an interface. -/
def isInterface (d : Descriptor) : Bool :=
  d.kind == .interfaceKind

/-- The properties, none if there is no property list. -/
def propertyList (d : Descriptor) : List String :=
  d.properties.getD []

/-- Whether the type declares a method of this name. -/
def hasMethod (d : Descriptor) (name : String) : Bool :=
  d.methods.contains name

/-- The package of the type. -/
def package (d : Descriptor) : Option String :=
  packageOf d.name

/-- The name of the type within its package. -/
def simpleName (d : Descriptor) : String :=
  simpleNameOf d.name

end Descriptor

/-- Kind and qualified name of a declaration, as a stub shows them. -/
structure TypeInfo where
  /-- Class or interface. -/
  kind : Kind
  /-- The qualified name. -/
  name : String
  deriving DecidableEq, Repr, Inhabited

/-- A Kotlin type and the Java type it stands for, both by qualified name. -/
structure MappingPair where
  /-- The Kotlin type. -/
  kotlin : String
  /-- The Java type. -/
  java : String
  deriving DecidableEq, Repr, Inhabited

/-- The directory that holds what is generated for a pair. -/
def MappingPair.dirName (pair : MappingPair) : String :=
  pairDirName pair.kotlin pair.java

end TwinTypes
