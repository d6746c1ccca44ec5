import TwinTypes.Run.Write

/-!
# Generating

`generate` writes the files of each pair of a list into a directory of its own. The first failure
ends the run; what was written for the pairs before it stays.
-/

namespace TwinTypes

/-- The two names of a pair, as fields of an event. -/
def pairFields (pair : MappingPair) : List (String × Log.FieldValue) :=
  [("kotlin", .text pair.kotlin), ("java", .text pair.java)]

/-- Reports that one of the types of a pair is not known. -/
def reportUnknown (registry : Registry) (pair : MappingPair) : Program Unit :=
  if registry.contains pair.kotlin && registry.contains pair.java then pure ()
  else
    report ⟨.warn, genTarget, "unknown type in pair; rendering an empty class for it",
      pairFields pair⟩

/-- Reports the members of the Kotlin type that become nothing. -/
def reportUnmapped (registry : Registry) (pair : MappingPair) : Program Unit :=
  let r := registry.infer pair.kotlin pair.java
  if r.hasUnmapped then
    report ⟨.debug, genTarget, "kotlin members without a java counterpart",
      pairFields pair ++ [("properties", .text (Text.quoteList r.unmappedProperties)),
        ("methods", .text (Text.quoteList r.unmappedMethods))]⟩
  else pure ()

/-- Writes files into a directory, in order. -/
def writeFiles (dir : String) : List (String × String) → Attempt GenError Unit
  | [] => pure ()
  | (name, text) :: rest => do
    atomicWriteText (Path.join dir name) text
    writeFiles dir rest

/-- Writes the files of a pair into its directory, and gives the path of the directory. -/
def writePair (outputDir : String) (artifacts : Artifacts) : Attempt GenError String := do
  let dir := Path.join outputDir artifacts.dirName
  (createDirs dir).orFail (.io dir)
  writeFiles dir artifacts.files
  pure dir

/-- Generates what belongs to one pair, and tells an observer of it. -/
def generatePair (registry : Registry) (outputDir : String)
    (onPair : GeneratedPair → Program Unit) (pair : MappingPair) : Attempt GenError GeneratedPair :=
  do
    Attempt.always (reportUnknown registry pair)
    Attempt.always (reportUnmapped registry pair)
    let dir ← writePair outputDir (renderPair registry pair)
    Attempt.always (report ⟨.info, genTarget, "generated mapping",
      pairFields pair ++ [("dir", .text dir)]⟩)
    let entry : GeneratedPair := ⟨pair.kotlin, pair.java, dir⟩
    Attempt.always (onPair entry)
    pure entry

/-- Generates what belongs to each pair, in order. -/
def generateAll (registry : Registry) (outputDir : String)
    (onPair : GeneratedPair → Program Unit) :
    List MappingPair → Attempt GenError (List GeneratedPair)
  | [] => pure []
  | pair :: rest => do
    let entry ← generatePair registry outputDir onPair pair
    let entries ← generateAll registry outputDir onPair rest
    pure (entry :: entries)

/-- **Generates what belongs to each pair of a list** below a directory. The observer is told of
each pair once its files are there. -/
def generate (registry : Registry) (pairs : List MappingPair) (outputDir : String)
    (onPair : GeneratedPair → Program Unit) : Attempt GenError Summary := do
  (createDirs outputDir).orFail (.io outputDir)
  let entries ← generateAll registry outputDir onPair pairs
  pure ⟨outputDir, entries⟩

end TwinTypes
