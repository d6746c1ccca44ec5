import TwinTypes.Correspondence
import TwinTypes.Data.Record
import TwinTypes.Document.Index

/-!
# The shapes of documents

The record types that documents are made of, each described once for every notation.
-/

namespace TwinTypes

variable {S : Type} {m : Type → Type} [Monad m]

/-- A text that becomes part of a record. -/
def textField {α : Type} (src : Source S m) (name : String) (put : String → α → α) :
    Field S m α :=
  ⟨name, true, fun s => do pure (put (← src.text s "a string"))⟩

/-- A list of texts. -/
def readTexts (src : Source S m) (s : S) : m (List String) :=
  src.items (fun item => src.text item "a string") s

/-- A kind, from the keyword that was found. -/
def readKeyword (src : Source S m) (s : S) (word : String) : m Kind :=
  match Kind.ofKeyword word with
  | some kind => pure kind
  | none => src.fail s (.unknownChoice word (Kind.all.map Kind.keyword))

/-- A declared type. -/
def typeInfoShape (src : Source S m) (kind : S → m Kind) : RecordShape S m TypeInfo where
  typeName := "TypeInfo"
  fields := [
    ⟨"kind", true, fun s => do
      let k ← kind s
      pure fun r => { r with kind := k }⟩,
    textField src "name" fun t r => { r with name := t }]
  strict := false
  blank := default

/-- A type shape. -/
def descriptorShape (src : Source S m) (kind : S → m Kind)
    (optional : {β : Type} → (S → m β) → S → m (Option β)) : RecordShape S m Descriptor where
  typeName := "TypeDescriptor"
  fields := [
    textField src "name" fun t r => { r with name := t },
    ⟨"kind", true, fun s => do
      let k ← kind s
      pure fun r => { r with kind := k }⟩,
    ⟨"supertype", false, fun s => do
      let t ← optional (fun s => src.text s "a string") s
      pure fun r => { r with supertype := t }⟩,
    ⟨"methods", false, fun s => do
      let ts ← readTexts src s
      pure fun r => { r with methods := ts }⟩,
    ⟨"properties", false, fun s => do
      let ts ← optional (readTexts src) s
      pure fun r => { r with properties := ts }⟩]
  strict := false
  blank := Descriptor.empty ""

/-- An entry of an index. -/
def indexEntryShape (src : Source S m) (kind : S → m Kind) : RecordShape S m IndexEntry where
  typeName := "IndexEntry"
  fields := [
    ⟨"kotlin", true, fun s => do
      let t ← src.record (typeInfoShape src kind) s
      pure fun r => { r with kotlin := t }⟩,
    ⟨"java", true, fun s => do
      let t ← src.record (typeInfoShape src kind) s
      pure fun r => { r with java := t }⟩]
  strict := false
  blank := default

/-- An index. -/
def indexShape (src : Source S m) (kind : S → m Kind) : RecordShape S m MappingIndex where
  typeName := "MappingIndex"
  fields := [
    ⟨"mappings", true, fun s => do
      let es ← src.items (src.record (indexEntryShape src kind)) s
      pure fun r => { r with entries := es }⟩]
  strict := false
  blank := default

/-- A matched member, with the name of its type in messages and the key of its Kotlin side. -/
def memberShape (src : Source S m) (typeName kotlinKey : String) : RecordShape S m MemberMatch where
  typeName := typeName
  fields := [
    textField src kotlinKey fun t r => { r with kotlin := t },
    textField src "java_method" fun t r => { r with java := t },
    textField src "note" fun t r => { r with note := t }]
  strict := false
  blank := default

/-- A report. The lists of members that became nothing are not part of a document: they come out
empty. -/
def reportShape (src : Source S m) : RecordShape S m Report where
  typeName := "CorrespondenceReport"
  fields := [
    textField src "kotlin_type" fun t r => { r with kotlinType := t },
    textField src "java_type" fun t r => { r with javaType := t },
    ⟨"property_mappings", true, fun s => do
      let ms ← src.items (src.record (memberShape src "PropertyCorrespondence" "kotlin_property")) s
      pure fun r => { r with properties := ms }⟩,
    ⟨"method_mappings", true, fun s => do
      let ms ← src.items (src.record (memberShape src "MethodCorrespondence" "kotlin_method")) s
      pure fun r => { r with methods := ms }⟩]
  strict := false
  blank := default

end TwinTypes
