import TwinTypes.Document.Json

/-!
# Pairs in a mapped-types document

Each side of a pair is a name, or a record of a kind and a name as an index has it. Which of the two
it is shows in the value itself, so the first reading that works is taken, and when neither works
the complaint says no more than that.

Two notations carry such lists. In JSON a pair may be spelt as the list of its two sides; in YAML it
may not, but there tags on a pair, on the list or around both are passed over, and nothing at all
reads as an empty list or record.
-/

namespace TwinTypes

namespace Side

/-- The keys of a record that names a type: the first stands for the kind, the second for the name;
a key may also be given by its position. -/
inductive Key where
  /-- The kind. -/
  | kind
  /-- The name. -/
  | name
  /-- Another key, which says nothing. -/
  | other
  deriving DecidableEq, Repr

/-- The meaning of a key, if it can be a key at all. -/
def keyOf : Value → Option Key
  | .text k => some (if k = "kind" then .kind else if k = "name" then .name else .other)
  | .int n =>
    if n < 0 then none else some (if n = 0 then .kind else if n = 1 then .name else .other)
  | _ => none

/-- The keyword that a value names, or the kind at a position of the list of kinds. -/
def kindWord : Value → Option Kind
  | .text word => Kind.ofKeyword word
  | .int n => if n < 0 then none else Kind.all[n.toNat]?
  | _ => none

/-- A kind: its keyword, or a record with nothing under it. -/
def kindOf : Value → Option Kind
  | .text word => Kind.ofKeyword word
  | .record [(key, .null)] => kindWord key
  | _ => none

/-- A name. -/
def nameOf : Value → Option String
  | .text s => some s
  | _ => none

/-- Reads the entries of a record, with the kind and the name found before them. -/
def readEntries (kind : Option Kind) (name : Option String) :
    List (Value × Value) → Option TypeInfo
  | [] => do pure ⟨← kind, ← name⟩
  | (key, value) :: rest =>
    match keyOf key with
    | some .kind => if kind.isSome then none else do readEntries (some (← kindOf value)) name rest
    | some .name => if name.isSome then none else do readEntries kind (some (← nameOf value)) rest
    | some .other => readEntries kind name rest
    | none => none

/-- A kind and a name, as a record or as a list of the two. -/
def typeInfoOf : Value → Option TypeInfo
  | .record fields => readEntries none none fields
  | .list [kind, name] => do pure ⟨← kindOf kind, ← nameOf name⟩
  | _ => none

mutual

/-- Whether there is a tag anywhere in a value. -/
def hasTag : Value → Bool
  | .tagged _ _ => true
  | .list items => anyTagged items
  | .record fields => anyFieldTagged fields
  | _ => false

/-- Whether there is a tag anywhere in a list of values. -/
def anyTagged : List Value → Bool
  | [] => false
  | v :: rest => hasTag v || anyTagged rest

/-- Whether there is a tag anywhere in some fields. -/
def anyFieldTagged : List (Value × Value) → Bool
  | [] => false
  | f :: rest => fieldTagged f || anyFieldTagged rest

/-- Whether there is a tag anywhere in a field. -/
def fieldTagged : Value × Value → Bool
  | (k, v) => hasTag k || hasTag v

end

/-- The name that one side of a pair gives. -/
def read (v : Value) : Except Cause String :=
  if hasTag v then
    .error (.remark "untagged and internally tagged enums do not support enum input")
  else
    match nameOf v with
    | some name => .ok name
    | none =>
      match typeInfoOf v with
      | some info => .ok info.name
      | none => .error (.remark "data did not match any variant of untagged enum TypeRef")

end Side

/-- A pair of types by their names. -/
def pairShape : RecordShape Value (Except Cause) MappingPair where
  typeName := "RawMappingPair"
  fields := [
    ⟨"kotlin", true, fun v => do
      let t ← Side.read v
      pure fun r => { r with kotlin := t }⟩,
    ⟨"java", true, fun v => do
      let t ← Side.read v
      pure fun r => { r with java := t }⟩]
  strict := false
  blank := default

/-- **Reads a list of pairs from a JSON value.** -/
def Json.readPairs (v : Value) : Except Cause (List MappingPair) :=
  Json.readItems (Json.readRecord pairShape) v

namespace Yaml

/-- Reads a pair. -/
def readPair (v : Value) : Except Cause MappingPair :=
  match v.untagged with
  | .record fields => pairShape.readNamed Json.source (fun k => Json.readKey k.untagged) v fields
  | .null => pairShape.readNamed Json.source Json.readKey v []
  | v => .error (.wrongType v.found pairShape.expected)

/-- **Reads a list of pairs from a YAML value.** -/
def readPairs (v : Value) : Except Cause (List MappingPair) :=
  match v.untagged with
  | .list items => items.mapM readPair
  | .null => .ok []
  | v => .error (.wrongType v.found "a sequence")

end Yaml

end TwinTypes
