import TwinTypes.Document.Shape

/-!
# Documents as JSON values

How the values of a JSON text are read as descriptors and indexes. A record may also be spelt as
the list of its values in declaration order.
-/

namespace TwinTypes.Json

/-- Reads a text. -/
def readText (v : Value) (expected : String) : Except Cause String :=
  match v with
  | .text s => .ok s
  | v => .error (.wrongType v.found expected)

/-- Reads a list. -/
def readItems {α : Type} (read : Value → Except Cause α) (v : Value) : Except Cause (List α) :=
  match v with
  | .list items => items.mapM read
  | v => .error (.wrongType v.found "a sequence")

/-- Reads the key of a field. -/
def readKey (v : Value) : Except Cause String :=
  readText v "field identifier"

/-- The means by which records read their entries; no record is nested without them. -/
def entrySource : Source Value (Except Cause) where
  fail _ cause := .error cause
  skip _ := .ok ()
  text := readText
  items := readItems
  record shape v := .error (.wrongType v.found shape.expected)

/-- Reads a record. -/
def readRecord {α : Type} (shape : RecordShape Value (Except Cause) α) (v : Value) :
    Except Cause α :=
  match v with
  | .record fields => shape.readNamed entrySource readKey v fields
  | .list items => do
    let record ← shape.readListed entrySource v items
    if shape.fields.length < items.length then
      .error (.wrongLength items.length "fewer elements in array")
    else .ok record
  | v => .error (.wrongType v.found shape.expected)

/-- JSON values as a notation. -/
def source : Source Value (Except Cause) :=
  { entrySource with record := readRecord }

/-- Reads a value that may be absent. -/
def readOptional {α : Type} (read : Value → Except Cause α) (v : Value) :
    Except Cause (Option α) :=
  match v with
  | .null => .ok none
  | v => (read v).map some

/-- Reads a kind: its keyword, or a record with nothing under the keyword. -/
def readKind (v : Value) : Except Cause Kind :=
  match v with
  | .text word => readKeyword source v word
  | .record [(.text word, content)] => do
    let kind ← readKeyword source v word
    match content with
    | .null => .ok kind
    | content => .error (.wrongType content.found "unit")
  | .record _ => .error (.wrongValue .record "map with a single key")
  | v => .error (.wrongType v.found "string or map")

/-- **Reads a type shape.** -/
def readDescriptor (v : Value) : Except Cause Descriptor :=
  readRecord (descriptorShape source readKind readOptional) v

/-- Reads a list of type shapes. -/
def readDescriptors (v : Value) : Except Cause (List Descriptor) :=
  readItems readDescriptor v

/-- **Reads an index.** -/
def readIndex (v : Value) : Except Cause MappingIndex :=
  readRecord (indexShape source readKind) v

end TwinTypes.Json
