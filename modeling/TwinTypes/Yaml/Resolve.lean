import TwinTypes.Data.Cause
import TwinTypes.Data.Numeral
import TwinTypes.Yaml.Token

/-!
# What a scalar stands for

A scalar without quotes may stand for nothing, a truth value or a number; quotes make it a text, and
a tag of the core set says what it has to be.
-/

namespace TwinTypes.Yaml

/-! ### Scalars without quotes -/

/-- Whether a word stands for nothing. -/
def isNullWord (s : String) : Bool :=
  ["null", "Null", "NULL", "~"].contains s

/-- The truth value that a word stands for. -/
def boolWord (s : String) : Option Bool :=
  if ["true", "True", "TRUE"].contains s then some true
  else if ["false", "False", "FALSE"].contains s then some false
  else none

/-- Whether a text is digits with a zero at the front, which makes it no number. -/
def isPadded (cs : List Char) : Bool :=
  match (Numeral.splitSign cs).2 with
  | '0' :: c :: rest => (c :: rest).all Char.isDigit
  | _ => false

/-- The number that digits spell, with a prefix for another base than ten. -/
def unsignedWord (cs : List Char) : Option Nat :=
  match cs with
  | '0' :: 'x' :: rest => Numeral.digits 16 rest
  | '0' :: 'o' :: rest => Numeral.digits 8 rest
  | '0' :: 'b' :: rest => Numeral.digits 2 rest
  | cs => if isPadded cs then none else Numeral.digits 10 cs

/-- The whole number that a word stands for, if it fits in 128 bits. -/
def intWord (cs : List Char) : Option Int :=
  match cs with
  | '-' :: rest =>
    (unsignedWord rest).bind fun n => if n ≤ twoTo 127 then some (-(n : Int)) else none
  | '+' :: rest => (unsignedWord rest).bind fun n => if n < twoTo 128 then some (n : Int) else none
  | cs => (unsignedWord cs).bind fun n => if n < twoTo 128 then some (n : Int) else none

/-- The floating-point number that a word stands for. -/
def floatWord (cs : List Char) : Option Binary64 :=
  let bare := match cs with
    | '+' :: rest => if rest.head? = some '+' ∨ rest.head? = some '-' then none else some rest
    | cs => some cs
  let is (word : List Char) (forms : List String) : Bool := (forms.map String.toList).contains word
  if bare.any fun b => is b [".inf", ".Inf", ".INF"] then some (.infinite false)
  else if is cs ["-.inf", "-.Inf", "-.INF"] then some (.infinite true)
  else if is cs [".nan", ".NaN", ".NAN"] then some .nan
  else
    match bare.bind Numeral.float with
    | some x => if x.isFinite then some x else none
    | none => none

/-- A floating-point number as a word. -/
def floatText : Binary64 → String
  | .nan => ".nan"
  | .infinite negative => if negative then "-.inf" else ".inf"
  | x => x.compact

/-! ### Scalars -/

/-- What a scalar stands for. -/
inductive Meaning where
  /-- A value. -/
  | value (v : Value)
  /-- A whole number that does not fit in 64 bits, which nothing can be made of. -/
  | wide (n : Int)
  deriving Repr, Inhabited

/-- What a message says was found. -/
def Meaning.found : Meaning → Found
  | value v => v.found
  | wide n => .wide n

/-- What a whole number stands for. -/
def intMeaning (n : Int) : Meaning :=
  if -(twoTo 63 : Int) ≤ n ∧ n < (twoTo 64 : Int) then .value (.int n) else .wide n

/-- What a scalar without quotes stands for. -/
def plainMeaning (s : String) : Meaning :=
  let cs := s.toList
  if cs.isEmpty || isNullWord s then .value .null
  else
    match boolWord s, intWord cs with
    | some b, _ => .value (.bool b)
    | none, some n => intMeaning n
    | none, none =>
      match (if isPadded cs then none else floatWord cs) with
      | some x => .value (.float x)
      | none => .value (.text s)

/-- The beginning of the tags of the core set. -/
def coreTag : String :=
  "tag:yaml.org,2002:"

/-- Whether a tag names a choice of its own, rather than a tag of some set. -/
def isChoiceTag (tag : String) : Bool :=
  tag.toList.head? == some '!'

/-- What a scalar with a tag has to stand for. -/
def taggedMeaning (tag : String) (style : ScalarStyle) (s : String) : Except Cause Meaning :=
  let demand (what : String) (found : Option Meaning) : Except Cause Meaning :=
    match found with
    | some m => .ok m
    | none => .error (.wrongValue (.text s) what)
  if tag = coreTag ++ "bool" then demand "a boolean" ((boolWord s).map fun b => .value (.bool b))
  else if tag = coreTag ++ "int" then demand "an integer" ((intWord s.toList).map intMeaning)
  else if tag = coreTag ++ "float" then
    demand "a float" ((floatWord s.toList).map fun x => .value (.float x))
  else if tag = coreTag ++ "null" then
    demand "null" (if isNullWord s then some (.value .null) else none)
  else if isChoiceTag tag && style == .plain then .ok (plainMeaning s)
  else .ok (.value (.text s))

/-- **What a scalar stands for.** -/
def meaning (tag : Option String) (style : ScalarStyle) (s : String) : Except Cause Meaning :=
  match tag with
  | some tag => taggedMeaning tag style s
  | none => .ok (if style = .plain then plainMeaning s else .value (.text s))

end TwinTypes.Yaml
