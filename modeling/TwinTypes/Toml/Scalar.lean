import TwinTypes.Data.Value
import TwinTypes.Toml.Text

/-!
# Numbers, dates and times

A date or a time is read for its form only; its value is a record with one private key, so that it
is taken for no other kind of value.
-/

namespace TwinTypes.Toml

open TwinTypes.Toml.Parser

/-- A value, and the name of its type in messages. -/
structure Scalar where
  /-- The name of the type. -/
  typeName : String
  /-- The value. -/
  value : Value

/-! ### Whole numbers -/

/-- Reads a digit of a base. -/
def digit (base : Nat) : Parser Char :=
  one fun c => (Numeral.digitValue c).any (· < base)

/-- Reads more digits; an underscore may stand between two. -/
def moreDigits (base : Nat) : Parser (List Char) :=
  repeated (orElse (digit base) (do
    char '_'
    (digit base).must.expecting "digit"))

/-- Reads one or more digits; an underscore may stand between two. -/
def digits (base : Nat) : Parser (List Char) := do
  let first ← digit base
  let others ← moreDigits base
  pure (first :: others)

/-- Reads a sign, if there is one. -/
def sign : Parser (List Char) := do
  pure (← (one fun c => c == '+' || c == '-').optional).toList

/-- Reads a decimal number: a sign, and digits of which a zero cannot be the first of several. -/
def decimal : Parser (List Char) :=
  (do
    let s ← sign
    let first ← digit 10
    if first = '0' then pure (s ++ [first])
    else do
      let others ← moreDigits 10
      pure (s ++ first :: others)).named "integer"

/-- The value of a whole number, which has to fit in 64 bits. -/
def fitted (n : Int) : Parser Scalar :=
  if n < -(twoTo 63 : Int) then wrong (.because "number too small to fit in target type")
  else if (twoTo 63 : Int) ≤ n then wrong (.because "number too large to fit in target type")
  else pure ⟨"integer", .int n⟩

/-- Reads the digits of a number in another base, after its prefix. -/
def basedInteger (lead : List Char) (base : Nat) (label : String) : Parser Scalar := do
  let found ← (do
    word lead
    (digits base).must).named label
  fitted ((Numeral.digits base found).getD 0 : Nat)

/-- Reads a decimal whole number. -/
def decimalInteger : Parser Scalar := do
  let (negative, found) := Numeral.splitSign (← decimal)
  let n : Int := ((Numeral.digits 10 found).getD 0 : Nat)
  fitted (if negative then -n else n)

/-- Reads a whole number. -/
def integer : Parser Scalar :=
  orElse (basedInteger "0x".toList 16 "hexadecimal integer")
    (orElse (basedInteger "0o".toList 8 "octal integer")
      (orElse (basedInteger "0b".toList 2 "binary integer") decimalInteger))

/-! ### Floating-point numbers -/

/-- Reads the part of a number after its point. -/
def fraction : Parser (List Char) := do
  char '.'
  let found ← (digits 10).must.expecting "digit"
  pure ('.' :: found)

/-- Reads an exponent. -/
def exponent : Parser (List Char) := do
  let _ ← one fun c => c == 'e' || c == 'E'
  let s ← sign
  let found ← (digits 10).must
  pure ('e' :: (s ++ found))

/-- Reads a number with a point or an exponent. -/
def finiteFloat : Parser Scalar := do
  let whole ← decimal
  let rest ← orElse exponent (do
    let part ← fraction
    let power ← exponent.optional
    pure (part ++ power.getD []))
  match Numeral.float (whole ++ rest) with
  | some x => if x = .infinite false then wrong .none else pure ⟨"float", .float x⟩
  | none => wrong .none

/-- Reads the name of an infinity or of what is not a number. -/
def floatName (negative : Bool) : Parser Scalar :=
  orElse (do
      word "inf".toList
      pure ⟨"float", .float (.infinite negative)⟩)
    (do
      word "nan".toList
      pure ⟨"float", .float .nan⟩)

/-- Reads a floating-point number. -/
def float : Parser Scalar :=
  (orElse finiteFloat (do
    let s ← sign
    floatName (s == ['-']))).named "floating-point number"

/-! ### Dates and times -/

/-- The complaint about a part of a date or a time that is too small or too great. -/
def outOfRange : Problem :=
  .because "value is out of range"

/-- Reads a number of so many digits within bounds. -/
def bounded (count low high : Nat) : Parser Nat := do
  let found ← exactly count Char.isDigit
  let n := (Numeral.digits 10 found).getD 0
  if low ≤ n ∧ n ≤ high then pure n else missing outOfRange

/-- How many days a month has. -/
def daysIn (year month : Nat) : Nat :=
  if month = 2 then
    if (year % 4 = 0 ∧ year % 100 ≠ 0) ∨ year % 400 = 0 then 29 else 28
  else if month = 4 ∨ month = 6 ∨ month = 9 ∨ month = 11 then 30
  else 31

/-- Reads a date. -/
def date : Parser Unit := do
  let year ← bounded 4 0 9999
  char '-'
  let month ← (bounded 2 1 12).must
  (char '-').must
  let day ← (bounded 2 1 31).must
  if daysIn year month < day then wrong outOfRange else pure ()

/-- Reads a time of day. -/
def time : Parser Unit := do
  let _ ← bounded 2 0 23
  char ':'
  (do
    let _ ← bounded 2 0 59
    char ':'
    let _ ← bounded 2 0 60
    let _ ← (do
      char '.'
      run1 Char.isDigit).optional
    pure ()).must

/-- Reads the difference from universal time. -/
def offset : Parser Unit :=
  (orElse (do let _ ← one fun c => c == 'Z' || c == 'z') (do
    let _ ← one fun c => c == '+' || c == '-'
    (do
      let _ ← bounded 2 0 23
      char ':'
      let _ ← bounded 2 0 59
      pure ()).must)).named "time offset"

/-- The key under which a date or a time stands. -/
def dateTimeKey : String :=
  "$__toml_private_datetime"

/-- Reads a date, with or without a time of day. -/
def dated : Parser Unit :=
  (do
    date
    let _ ← (do
      let _ ← one fun c => c == 'T' || c == 't' || c == ' '
      time
      let _ ← offset.optional
      pure ()).optional
    pure ()).named "date-time"

/-- Reads a date, a time, or both. -/
def dateTime : Parser Scalar := do
  orElse dated (time.named "time")
  pure ⟨"datetime", .fields [(dateTimeKey, .null)]⟩

end TwinTypes.Toml
