import TwinTypes.Data.Binary64

/-!
# Document values

The tree that a structured document stands for, whatever notation it is written in: scalars, lists,
records whose keys may be any value, and values that carry a tag.
-/

namespace TwinTypes

/-- The value of a document or of a part of it. -/
inductive Value where
  /-- Nothing. -/
  | null
  /-- A truth value. -/
  | bool (b : Bool)
  /-- A whole number. -/
  | int (n : Int)
  /-- A floating-point number. -/
  | float (x : Binary64)
  /-- A text. -/
  | text (s : String)
  /-- A list. -/
  | list (items : List Value)
  /-- A record: its fields in the order of the document. -/
  | record (fields : List (Value × Value))
  /-- A value with a tag. -/
  | tagged (tag : String) (content : Value)
  deriving Repr, Inhabited

namespace Value

/-- A list of texts. -/
def texts (items : List String) : Value :=
  list (items.map text)

/-- A record whose keys are texts. -/
def fields (entries : List (String × Value)) : Value :=
  record (entries.map fun e => (text e.1, e.2))

/-- The value of a numeral without exponent, given as a whole number and how many of its digits
stand after the point. -/
def numeral (digits : Int) (places : Nat) : Value :=
  if places = 0 ∧ -(twoTo 63 : Int) ≤ digits ∧ digits < (twoTo 64 : Int) then int digits
  else float (Binary64.ofDecimal (decide (digits < 0)) digits.natAbs (-(places : Int)))

/-- The value without the tags around it. -/
def untagged : Value → Value
  | tagged _ content => content.untagged
  | v => v

mutual

/-- Whether two values are the same key. The order of the fields of a record says nothing. -/
def same : Value → Value → Bool
  | null, w => (match w with | null => true | _ => false)
  | bool a, w => (match w with | bool b => a == b | _ => false)
  | int a, w => (match w with | int b => a == b | _ => false)
  | float a, w => (match w with | float b => a.same b | _ => false)
  | text a, w => (match w with | text b => a == b | _ => false)
  | list a, w => (match w with | list b => sameItems a b | _ => false)
  | record a, w => (match w with | record b => a.length == b.length && sameFields a b | _ => false)
  | tagged s a, w => (match w with | tagged t b => s == t && same a b | _ => false)

/-- Whether two lists hold the same values in the same order. -/
def sameItems : List Value → List Value → Bool
  | [], bs => bs.isEmpty
  | a :: as, bs => (match bs with | b :: bs => same a b && sameItems as bs | [] => false)

/-- Whether each of the first fields is found among the second. -/
def sameFields : List (Value × Value) → List (Value × Value) → Bool
  | [], _ => true
  | f :: rest, others => (others.any fun g => sameField f g) && sameFields rest others

/-- Whether two fields have the same key and the same value. -/
def sameField : Value × Value → Value × Value → Bool
  | (k, v), g => same k g.1 && same v g.2

end

/-- The value of a field of a record. -/
def field? (v : Value) (key : String) : Option Value :=
  match v with
  | record entries => (entries.find? fun e => e.1.same (text key)).map Prod.snd
  | _ => none

end Value

end TwinTypes
