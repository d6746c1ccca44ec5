import TwinTypes.Descriptor

/-!
# Declarations of a type

`javaStub` and `kotlinStub` show a type shape as a minimal declaration, one line a member. The lines
are joined by line feeds and the last one has none. A Java stub shows no properties, as Java has no
way to declare one.
-/

namespace TwinTypes

/-- The lines that name the package of a type, followed by an empty one; none without a package. -/
def packageLines (terminator : String) (name : String) : List String :=
  match packageOf name with
  | some package => ["package " ++ package ++ terminator, ""]
  | none => []

/-- The part of a declaration that names the supertype, after the word or sign that leads it in. -/
def supertypeClause (lead : String) (d : Descriptor) : String :=
  match d.supertype with
  | some supertype => lead ++ supertype
  | none => ""

/-- The line that opens a Java declaration. -/
def javaHeader (name : String) (d : Descriptor) : String :=
  "public " ++ d.kind.keyword ++ " " ++ simpleNameOf name ++ supertypeClause " extends " d
    ++ " \x7b"

/-- The line that opens a Kotlin declaration. -/
def kotlinHeader (name : String) (d : Descriptor) : String :=
  d.kind.keyword ++ " " ++ simpleNameOf name ++ supertypeClause " : " d ++ " \x7b"

/-- The line of a method in a Java declaration: a comment. -/
def javaMethodLine (method : String) : String :=
  "    // " ++ method ++ "()"

/-- The line of a property in a Kotlin declaration. -/
def kotlinPropertyLine (property : String) : String :=
  "    val " ++ property ++ ": Any // property"

/-- The line of a method in a Kotlin declaration. -/
def kotlinMethodLine (method : String) : String :=
  "    fun " ++ method ++ "() // method"

/-- The lines of a Java declaration of this name and shape. -/
def javaLines (name : String) (d : Descriptor) : List String :=
  packageLines ";" name ++ [javaHeader name d] ++ d.methods.map javaMethodLine ++ ["\x7d"]

/-- The lines of a Kotlin declaration of this name and shape: properties first, then methods. -/
def kotlinLines (name : String) (d : Descriptor) : List String :=
  packageLines "" name ++ [kotlinHeader name d] ++ d.propertyList.map kotlinPropertyLine
    ++ d.methods.map kotlinMethodLine ++ ["\x7d"]

/-- **The Java stub** of a type: its declaration with one comment a method. -/
def javaStub (name : String) (d : Descriptor) : String :=
  String.intercalate "\n" (javaLines name d)

/-- **The Kotlin stub** of a type: its declaration with its properties and methods. -/
def kotlinStub (name : String) (d : Descriptor) : String :=
  String.intercalate "\n" (kotlinLines name d)

end TwinTypes
