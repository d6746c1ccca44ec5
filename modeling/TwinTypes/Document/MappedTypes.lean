import TwinTypes.Document.Encode
import TwinTypes.Document.Pair
import TwinTypes.Yaml.Printer
import TwinTypes.Yaml.Reader

/-!
# Documents on disk

The texts of the documents that are written and read: the mapped-types document, the index, and the
report on a pair.

A mapped-types document is a list of pairs, bare or under `mappings`. The text is read as a value
first and only then as pairs, so a fault anywhere in the text comes before a complaint about a pair.
-/

namespace TwinTypes

/-- The list of pairs in the value of a mapped-types document. -/
def pairList (v : Value) : Except String Value :=
  match v with
  | .record _ =>
    match v.field? "mappings" with
    | some list => .ok list
    | none => .error "expected a top-level `mappings` list"
  | .list _ => .ok v
  | .null => .error "document is empty"
  | _ => .error "expected a mapping with `mappings` or a sequence of pairs"

/-- The pairs in the value of a mapped-types document, or what is wrong with it. -/
def pairsOfValue (v : Value) : Except String (List MappingPair) :=
  match pairList v with
  | .error message => .error message
  | .ok list =>
    match Yaml.readPairs list with
    | .error cause => .error (cause.message .general)
    | .ok pairs => .ok pairs

/-- **The pairs in a mapped-types document**, or what is wrong with it. -/
def parsePairs (text : String) : Except String (List MappingPair) :=
  match Yaml.parseValue text with
  | .error failure => .error failure.message
  | .ok v => pairsOfValue v

/-- **A mapped-types document** that lists these pairs. -/
def pairsText (pairs : List MappingPair) : String :=
  Yaml.print (mappedTypesDocument pairs)

/-- **The text of an index.** -/
def MappingIndex.text (index : MappingIndex) : String :=
  Yaml.print index.toValue

/-- **The text of a report.** -/
def Report.text (r : Report) : String :=
  Yaml.print r.toValue

end TwinTypes
