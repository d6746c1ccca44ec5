import TwinTypes.Document.MappedTypes
import TwinTypes.Stub

/-!
# What is generated for a pair

Three texts go into the directory of a pair: a stub for either type, and the report on how the
members of the one become members of the other.
-/

namespace TwinTypes

/-- The file of the Java stub. -/
def javaFile : String :=
  "java-definition.java"

/-- The file of the Kotlin stub. -/
def kotlinFile : String :=
  "kotlin-definition.kt"

/-- The file of the report. -/
def detailsFile : String :=
  "mapping-details.yaml"

/-- What is generated for a pair. -/
structure Artifacts where
  /-- The name of the directory. -/
  dirName : String
  /-- The Java stub. -/
  javaStub : String
  /-- The Kotlin stub. -/
  kotlinStub : String
  /-- The report. -/
  details : String
  deriving DecidableEq, Repr, Inhabited

/-- A pair whose files have been written. -/
structure GeneratedPair where
  /-- The Kotlin type. -/
  kotlin : String
  /-- The Java type. -/
  java : String
  /-- The path of the directory. -/
  dir : String
  deriving DecidableEq, Repr, Inhabited

/-- What a run has written. -/
structure Summary where
  /-- The directory that holds the directories of the pairs. -/
  outputDir : String
  /-- The pairs, in the order of the run. -/
  pairs : List GeneratedPair
  deriving DecidableEq, Repr, Inhabited

/-- The value of a pair that has been written. -/
def GeneratedPair.toValue (p : GeneratedPair) : Value :=
  .fields [("kotlin", .text p.kotlin), ("java", .text p.java), ("dir", .text p.dir)]

/-- The value of a summary. -/
def Summary.toValue (s : Summary) : Value :=
  .fields [("output_dir", .text s.outputDir), ("pairs", .list (s.pairs.map GeneratedPair.toValue))]

/-- **What is generated for a pair**, given what is known of types. -/
def renderPair (registry : Registry) (pair : MappingPair) : Artifacts where
  dirName := pair.dirName
  javaStub := javaStub pair.java (registry.lookup pair.java)
  kotlinStub := kotlinStub pair.kotlin (registry.lookup pair.kotlin)
  details := (registry.infer pair.kotlin pair.java).text

/-- The files of a pair with their texts, in the order in which they are written. -/
def Artifacts.files (a : Artifacts) : List (String × String) :=
  [(javaFile, a.javaStub), (kotlinFile, a.kotlinStub), (detailsFile, a.details)]

end TwinTypes
