import TwinTypes.Data.Cause

/-!
# Reading records

A record type is described once, by a `RecordShape`: its fields in declaration order, whether each
must be there, and what each contributes. A `Source` says how a notation spells texts, lists and
records; from the two together a value of the notation is read as a record of the type.

The order of complaints is part of the description. Fields are read in the order in which the
document has them, and the first that cannot be read ends the reading; only then are the fields
looked for that are not there, in declaration order.
-/

namespace TwinTypes

variable {S : Type} {m : Type → Type} {α : Type}

/-- A field of a record type. -/
structure Field (S : Type) (m : Type → Type) (α : Type) where
  /-- The key. -/
  name : String
  /-- Whether a record must have the field. -/
  required : Bool
  /-- What the value of the field makes of a record. -/
  read : S → m (α → α)

/-- A record type: how its values are put together from fields. -/
structure RecordShape (S : Type) (m : Type → Type) (α : Type) where
  /-- The name of the type in messages. -/
  typeName : String
  /-- The fields, in declaration order. -/
  fields : List (Field S m α)
  /-- Whether a field of another name is an error; otherwise it says nothing. -/
  strict : Bool
  /-- A record of which no field has been read. -/
  blank : α

/-- How a notation spells what records are made of. -/
structure Source (S : Type) (m : Type → Type) where
  /-- Complains about a value. -/
  fail : {α : Type} → S → Cause → m α
  /-- Passes over a value that says nothing. -/
  skip : S → m Unit
  /-- Reads a text; the second argument is what a message calls the text. -/
  text : S → String → m String
  /-- Reads a list. -/
  items : {α : Type} → (S → m α) → S → m (List α)
  /-- Reads a record. -/
  record : {α : Type} → RecordShape S m α → S → m α

namespace RecordShape

/-- The keys, in declaration order. -/
def names (shape : RecordShape S m α) : List String :=
  shape.fields.map Field.name

/-- What a message expects where no record of the type is. -/
def expected (shape : RecordShape S m α) : String :=
  "struct " ++ shape.typeName

/-- What a message expects where a list is too short to spell a record of the type. -/
def expectedItems (shape : RecordShape S m α) : String :=
  let n := shape.fields.length
  shape.expected ++ " with " ++ toString n ++ (if n = 1 then " element" else " elements")

/-- The first field that a record must have and that is not among the keys seen. -/
def missing (shape : RecordShape S m α) (seen : List String) : Option String :=
  (shape.fields.find? fun f => f.required && !seen.contains f.name).map Field.name

/-- A record under construction, and the keys it has been given. -/
structure Progress (α : Type) where
  /-- The record as far as it has been read. -/
  draft : α
  /-- The keys read so far. -/
  seen : List String

/-- Reads one entry of a record. -/
def readEntry [Monad m] (shape : RecordShape S m α) (src : Source S m) (whole : S)
    (p : Progress α) (name : String) (value : S) : m (Progress α) :=
  match shape.fields.find? fun f => f.name == name with
  | some f =>
    if p.seen.contains name then src.fail whole (.repeatedField name)
    else do
      let change ← f.read value
      pure ⟨change p.draft, name :: p.seen⟩
  | none =>
    if shape.strict then src.fail whole (.unknownField name shape.names)
    else do
      src.skip value
      pure p

/-- The record that has been read, if nothing is missing. -/
def finish [Monad m] (shape : RecordShape S m α) (src : Source S m) (whole : S) (p : Progress α)
    (complaint : String → Cause) : m α :=
  match shape.missing p.seen with
  | some name => src.fail whole (complaint name)
  | none => pure p.draft

/-- Reads a record from keys and values, given how a key is read. -/
def readNamed [Monad m] (shape : RecordShape S m α) (src : Source S m) (key : S → m String)
    (whole : S) (entries : List (S × S)) : m α := do
  let p ← entries.foldlM
    (fun p e => do shape.readEntry src whole p (← key e.1) e.2) ⟨shape.blank, []⟩
  shape.finish src whole p .missingField

/-- Reads a record from its values in declaration order. A value that has no field left is not
looked at. -/
def readListed [Monad m] (shape : RecordShape S m α) (src : Source S m) (whole : S)
    (items : List S) : m α := do
  let p ← (shape.names.zip items).foldlM
    (fun p e => shape.readEntry src whole p e.1 e.2) ⟨shape.blank, []⟩
  shape.finish src whole p fun name =>
    .wrongLength (shape.names.idxOf name) shape.expectedItems

end RecordShape

end TwinTypes
