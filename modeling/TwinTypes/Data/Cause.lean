import TwinTypes.Data.Value
import TwinTypes.Text.Quoted

/-!
# Why a value is not what was expected

The reasons for which a document value cannot be read as a value of some type, and their wording.
Two families of readers word the same reason alike but for what they call nothing and how they show
a floating-point number; `Dialect` tells them apart.
-/

namespace TwinTypes

/-! ### What was found -/

/-- What a message says was found. -/
inductive Found where
  /-- Nothing at all. -/
  | nothing
  /-- A truth value. -/
  | bool (b : Bool)
  /-- A whole number. -/
  | int (n : Int)
  /-- A whole number that does not fit in 64 bits. -/
  | wide (n : Int)
  /-- A floating-point number. -/
  | float (x : Binary64)
  /-- A text. -/
  | text (s : String)
  /-- A list. -/
  | list
  /-- A record. -/
  | record
  /-- A value that its tag makes one of several choices. -/
  | choice
  deriving Repr, Inhabited

/-- What a value is reported as. -/
def Value.found : Value → Found
  | null => .nothing
  | bool b => .bool b
  | int n => .int n
  | float x => .float x
  | text s => .text s
  | list _ => .list
  | record _ => .record
  | tagged _ _ => .choice

/-- A family of readers, by how it words its messages. -/
inductive Dialect where
  /-- The usual wording. -/
  | general
  /-- The wording for JSON values. -/
  | json
  deriving DecidableEq, Repr

/-- What was found, in words. -/
def Found.words (dialect : Dialect) : Found → String
  | nothing => match dialect with
    | .general => "unit value"
    | .json => "null"
  | bool b => "boolean `" ++ (if b then "true" else "false") ++ "`"
  | int n => "integer `" ++ toString n ++ "`"
  | wide n => "integer `" ++ toString n ++ (if n < 0 then "` as i128" else "` as u128")
  | float x => "floating point `" ++ (match dialect with
    | .general => x.positional
    | .json => x.compact) ++ "`"
  | text s => "string " ++ Text.quote s
  | list => "sequence"
  | record => "map"
  | choice => "enum"

/-! ### The reasons -/

/-- Why a value cannot be read. -/
inductive Cause where
  /-- It is a value of another kind. -/
  | wrongType (found : Found) (expected : String)
  /-- It is of the right kind but is not one of the values expected. -/
  | wrongValue (found : Found) (expected : String)
  /-- It has another number of items. -/
  | wrongLength (length : Nat) (expected : String)
  /-- It has a field that no record of the type has. -/
  | unknownField (name : String) (allowed : List String)
  /-- It names a choice that there is not. -/
  | unknownChoice (name : String) (allowed : List String)
  /-- It lacks a field. -/
  | missingField (name : String)
  /-- It has a field twice. -/
  | repeatedField (name : String)
  /-- A reason in its own words. -/
  | remark (message : String)
  deriving Repr, Inhabited

/-- Names to choose from, in words. -/
def showAllowed : List String → String
  | [] => "there are no names"
  | [a] => "expected `" ++ a ++ "`"
  | [a, b] => "expected `" ++ a ++ "` or `" ++ b ++ "`"
  | names => "expected one of " ++ String.intercalate ", " (names.map fun n => "`" ++ n ++ "`")

/-- A reason, in words. -/
def Cause.message (dialect : Dialect) : Cause → String
  | wrongType found expected => "invalid type: " ++ found.words dialect ++ ", expected " ++ expected
  | wrongValue found expected =>
    "invalid value: " ++ found.words dialect ++ ", expected " ++ expected
  | wrongLength length expected => "invalid length " ++ toString length ++ ", expected " ++ expected
  | unknownField name allowed => "unknown field `" ++ name ++ "`, " ++ showAllowed allowed
  | unknownChoice name allowed => "unknown variant `" ++ name ++ "`, " ++ showAllowed allowed
  | missingField name => "missing field `" ++ name ++ "`"
  | repeatedField name => "duplicate field `" ++ name ++ "`"
  | remark message => message

end TwinTypes
