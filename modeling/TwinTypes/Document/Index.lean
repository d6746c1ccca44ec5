import TwinTypes.Descriptor

/-!
# The index of generated mappings

An index lists the pairs of types for which stubs were found, each side with the kind that its stub
declares.
-/

namespace TwinTypes

/-- A pair of types as their stubs declare them. -/
structure IndexEntry where
  /-- The Kotlin type. -/
  kotlin : TypeInfo
  /-- The Java type. -/
  java : TypeInfo
  deriving DecidableEq, Repr, Inhabited

/-- The names of an entry. -/
def IndexEntry.pair (e : IndexEntry) : MappingPair :=
  ⟨e.kotlin.name, e.java.name⟩

/-- A list of pairs that have stubs. -/
structure MappingIndex where
  /-- The pairs. -/
  entries : List IndexEntry
  deriving DecidableEq, Repr, Inhabited

/-- The pairs of an index, as a list of mapped types. -/
def MappingIndex.pairs (index : MappingIndex) : List MappingPair :=
  index.entries.map IndexEntry.pair

end TwinTypes
