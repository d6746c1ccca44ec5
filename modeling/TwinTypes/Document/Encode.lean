import TwinTypes.Correspondence
import TwinTypes.Data.Value
import TwinTypes.Document.Index

/-!
# What is written as a document

The value that each kind of document is written from. Fields come in a fixed order. A descriptor
leaves out a supertype and a property list that it does not have, but always shows its methods.
-/

namespace TwinTypes

open Value

/-- The value of a kind: its keyword. -/
def Kind.toValue (kind : Kind) : Value :=
  text kind.keyword

/-- The value of a descriptor. -/
def Descriptor.toValue (d : Descriptor) : Value :=
  fields ([("name", text d.name), ("kind", d.kind.toValue)]
    ++ (match d.supertype with | some s => [("supertype", text s)] | none => [])
    ++ [("methods", texts d.methods)]
    ++ (match d.properties with | some ps => [("properties", texts ps)] | none => []))

/-- The value of a declared type. -/
def TypeInfo.toValue (info : TypeInfo) : Value :=
  fields [("kind", info.kind.toValue), ("name", text info.name)]

/-- The value of a pair. -/
def MappingPair.toValue (pair : MappingPair) : Value :=
  fields [("kotlin", text pair.kotlin), ("java", text pair.java)]

/-- The mapped-types document of a list of pairs. -/
def mappedTypesDocument (pairs : List MappingPair) : Value :=
  fields [("mappings", list (pairs.map MappingPair.toValue))]

/-- The value of an entry of the index. -/
def IndexEntry.toValue (e : IndexEntry) : Value :=
  fields [("kotlin", e.kotlin.toValue), ("java", e.java.toValue)]

/-- The document of an index. -/
def MappingIndex.toValue (index : MappingIndex) : Value :=
  fields [("mappings", list (index.entries.map IndexEntry.toValue))]

/-- The value of a matched member, its Kotlin side under the given key. -/
def MemberMatch.toValue (kotlinKey : String) (m : MemberMatch) : Value :=
  fields [(kotlinKey, text m.kotlin), ("java_method", text m.java), ("note", text m.note)]

/-- The document of a report. Members that became nothing are not part of it. -/
def Report.toValue (r : Report) : Value :=
  fields [
    ("kotlin_type", text r.kotlinType),
    ("java_type", text r.javaType),
    ("property_mappings", list (r.properties.map (MemberMatch.toValue "kotlin_property"))),
    ("method_mappings", list (r.methods.map (MemberMatch.toValue "kotlin_method")))]

end TwinTypes
