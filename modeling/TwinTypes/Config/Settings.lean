import TwinTypes.Data.Record
import TwinTypes.Toml.Document

/-!
# Settings

What a config file can set, what holds where it sets nothing, and how the value of its text is read.
A name that is no setting is an error, so that a slip of the pen does not go unnoticed. Each default
is written once, in `Config.default` and `Logging.default`; reading starts from them.
-/

namespace TwinTypes

/-- How events are reported. -/
structure Logging where
  /-- The least level that is reported, or a list of directives. -/
  level : String
  /-- Whether each event is a line of JSON. -/
  json : Bool
  /-- Whether events are reported at all. -/
  stderr : Bool
  deriving DecidableEq, Repr, Inhabited

/-- The settings. -/
structure Config where
  /-- The mapped-types document. -/
  mappedTypes : String
  /-- The directory that receives a directory for each pair. -/
  outputDir : String
  /-- The index file. -/
  indexFile : String
  /-- How events are reported. -/
  logging : Logging
  deriving DecidableEq, Repr, Inhabited

/-- Warnings, in lines of text. -/
def Logging.default : Logging :=
  ⟨"warn", false, true⟩

/-- The settings without a config file. -/
def Config.default : Config :=
  ⟨"mapped-types.yaml", "mappings", "mapped-types-index.yaml", Logging.default⟩

namespace Toml

/-! ### TOML values as a notation -/

/-- Reads a text. -/
def readText (v : Value) (expected : String) : Except Cause String :=
  match v with
  | .text s => .ok s
  | v => .error (.wrongType v.found expected)

/-- Reads a truth value. -/
def readBool (v : Value) : Except Cause Bool :=
  match v with
  | .bool b => .ok b
  | v => .error (.wrongType v.found "a boolean")

/-- Reads a list. -/
def readItems {α : Type} (read : Value → Except Cause α) (v : Value) : Except Cause (List α) :=
  match v with
  | .list items => items.mapM read
  | v => .error (.wrongType v.found "a sequence")

/-- The means by which records read their entries; no record is nested without them. -/
def entrySource : Source Value (Except Cause) where
  fail _ cause := .error cause
  skip _ := .ok ()
  text := readText
  items := readItems
  record shape v := .error (.wrongType v.found shape.expected)

/-- Reads a record: a table, or the list of its values in declaration order. -/
def readRecord {α : Type} (shape : RecordShape Value (Except Cause) α) (v : Value) :
    Except Cause α :=
  match v with
  | .record fields =>
    shape.readNamed entrySource (fun k => readText k "field identifier") v fields
  | .list items => shape.readListed entrySource v items
  | v => .error (.wrongType v.found shape.expected)

end Toml

/-! ### Reading settings -/

/-- The settings of reports. -/
def loggingShape : RecordShape Value (Except Cause) Logging where
  typeName := "LoggingConfig"
  fields := [
    ⟨"level", false, fun v => do
      let t ← Toml.readText v "a string"
      pure fun r => { r with level := t }⟩,
    ⟨"json", false, fun v => do
      let b ← Toml.readBool v
      pure fun r => { r with json := b }⟩,
    ⟨"stderr", false, fun v => do
      let b ← Toml.readBool v
      pure fun r => { r with stderr := b }⟩]
  strict := true
  blank := Logging.default

/-- The settings. -/
def configShape : RecordShape Value (Except Cause) Config where
  typeName := "KtmapConfig"
  fields := [
    ⟨"mapped_types", false, fun v => do
      let t ← Toml.readText v "path string"
      pure fun r => { r with mappedTypes := t }⟩,
    ⟨"output_dir", false, fun v => do
      let t ← Toml.readText v "path string"
      pure fun r => { r with outputDir := t }⟩,
    ⟨"index_file", false, fun v => do
      let t ← Toml.readText v "path string"
      pure fun r => { r with indexFile := t }⟩,
    ⟨"logging", false, fun v => do
      let l ← Toml.readRecord loggingShape v
      pure fun r => { r with logging := l }⟩]
  strict := true
  blank := Config.default

/-- Reads settings from the value of a config file. -/
def Config.ofValue (v : Value) : Except Cause Config :=
  Toml.readRecord configShape v

/-- **The settings in the text of a config file**, or what is wrong with it. -/
def Config.parse (text : String) : Except String Config :=
  match Toml.parse text with
  | .error message => .error message
  | .ok v =>
    match Config.ofValue v with
    | .error cause => .error (cause.message .general)
    | .ok config => .ok config

end TwinTypes
