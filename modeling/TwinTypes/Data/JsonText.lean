import TwinTypes.Data.Value
import TwinTypes.Text.Quoted

/-!
# Values as JSON text

`prettyJson` writes a value over several lines, each nesting level two spaces further in.
-/

namespace TwinTypes.Data

open Text

/-- One character of a JSON string. -/
def jsonChar (c : Char) : List Char :=
  if c == '"' then ['\\', '"']
  else if c == '\\' then ['\\', '\\']
  else if c == '\n' then ['\\', 'n']
  else if c == '\r' then ['\\', 'r']
  else if c == '\t' then ['\\', 't']
  else if c.toNat == 8 then ['\\', 'b']
  else if c.toNat == 12 then ['\\', 'f']
  else if c.toNat < 32 then '\\' :: 'u' :: hexadecimal 4 c.toNat
  else [c]

/-- A text as a JSON string. -/
def jsonString (s : String) : String :=
  String.ofList ('"' :: (s.toList.flatMap jsonChar ++ ['"']))

/-- The beginning of a line, so many levels in. -/
def newLine (level : Nat) : String :=
  String.ofList ('\n' :: List.replicate (2 * level) ' ')

/-- A scalar as JSON; also what a key is written as. -/
def jsonScalar : Value → String
  | .null => "null"
  | .bool b => if b then "true" else "false"
  | .int n => toString n
  | .float x => if x.isFinite then x.compact else "null"
  | .text s => jsonString s
  | _ => "null"

mutual

/-- A value as JSON, so many levels in. -/
def prettyAt (level : Nat) : Value → String
  | .list items =>
    if items.isEmpty then "[]" else "[" ++ prettyItems level true items ++ newLine level ++ "]"
  | .record fields =>
    if fields.isEmpty then "\x7b\x7d"
    else "\x7b" ++ prettyFields level true fields ++ newLine level ++ "\x7d"
  | .tagged _ content => prettyAt level content
  | v => jsonScalar v

/-- The items of a list, each on its line. -/
def prettyItems (level : Nat) (first : Bool) : List Value → String
  | [] => ""
  | v :: rest =>
    (if first then "" else ",") ++ newLine (level + 1) ++ prettyAt (level + 1) v
      ++ prettyItems level false rest

/-- The fields of a record, each on its line. -/
def prettyFields (level : Nat) (first : Bool) : List (Value × Value) → String
  | [] => ""
  | f :: rest =>
    (if first then "" else ",") ++ newLine (level + 1) ++ prettyField level f
      ++ prettyFields level false rest

/-- A field: its key, a colon, its value. -/
def prettyField (level : Nat) : Value × Value → String
  | (k, v) => jsonScalar k ++ ": " ++ prettyAt (level + 1) v

end

/-- **A value as JSON text over several lines.** -/
def prettyJson (v : Value) : String :=
  prettyAt 0 v

end TwinTypes.Data
