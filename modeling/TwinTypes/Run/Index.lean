import TwinTypes.Document.MappedTypes
import TwinTypes.Run.Generate
import TwinTypes.StubReader

/-!
# Indexing

`buildIndex` finds the pairs of types for which a directory holds stubs. A directory is judged by
what its two stubs declare and not by its name, so directories made or changed by hand count too.
One that lacks a stub, or whose stubs declare nothing, is passed over.
-/

namespace TwinTypes

/-- The type that the stub in a file declares. A file that is there and cannot be read is
reported. -/
def readStub (path : String) : Program (Option TypeInfo) := do
  match ← (readText path).run with
  | .ok text => pure (readTypeInfo text)
  | .error .notFound => pure none
  | .error e => do
    report ⟨.debug, genTarget, "failed to read stub",
      [("path", .text path), ("error", .text e.message)]⟩
    pure none

/-- The pair of types whose stubs a directory holds. -/
def readEntry (dir : String) : Program (Option IndexEntry) := do
  let kotlin ← readStub (Path.join dir kotlinFile)
  let java ← readStub (Path.join dir javaFile)
  match kotlin, java with
  | some kotlin, some java => pure (some ⟨kotlin, java⟩)
  | _, _ => do
    report ⟨.debug, genTarget, "skipping directory without both stubs", [("dir", .text dir)]⟩
    pure none

/-- The pairs of types in some directories, in order. -/
def readEntries (root : String) : List (String × Bool) → Program (List IndexEntry)
  | [] => pure []
  | (name, isDir) :: rest =>
    if isDir then do
      let entry ← readEntry (Path.join root name)
      let entries ← readEntries root rest
      pure (entry.toList ++ entries)
    else readEntries root rest

/-- The entries without those whose two names came before. -/
def dropRepeats (seen : List MappingPair) : List IndexEntry → List IndexEntry
  | [] => []
  | e :: rest =>
    if seen.contains e.pair then dropRepeats seen rest
    else e :: dropRepeats (e.pair :: seen) rest

/-- Whether the first entry may come before the second: by the Kotlin names, then by the Java
names. -/
def IndexEntry.precedes (a b : IndexEntry) : Bool :=
  decide (a.kotlin.name < b.kotlin.name)
    || (a.kotlin.name == b.kotlin.name && !decide (b.java.name < a.java.name))

/-- The index of the entries found: without repeats, and in order. -/
def indexOf (found : List IndexEntry) : MappingIndex :=
  ⟨(dropRepeats [] found).mergeSort IndexEntry.precedes⟩

/-- **The index of a directory.** -/
def buildIndex (root : String) : Attempt GenError MappingIndex := do
  let names ← (Attempt.ofProgram (Program.request (.list root))).orFail (.scan root)
  let found ← Attempt.always (readEntries root names)
  pure (indexOf found)

/-- **Writes an index.** -/
def writeIndex (path : String) (index : MappingIndex) : Attempt GenError Unit :=
  atomicWriteText path index.text

end TwinTypes
