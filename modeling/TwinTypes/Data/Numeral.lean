import TwinTypes.Data.Binary64

/-!
# Numerals

Reading a text as a whole number or as a floating-point number.
-/

namespace TwinTypes.Numeral

/-- The value of a digit, in any base up to sixteen. -/
def digitValue (c : Char) : Option Nat :=
  if c.isDigit then some (c.toNat - 48)
  else if 'a' ≤ c ∧ c ≤ 'f' then some (c.toNat - 87)
  else if 'A' ≤ c ∧ c ≤ 'F' then some (c.toNat - 55)
  else none

/-- The number that digits of a base spell after those read before. -/
def digitsFrom (base n : Nat) : List Char → Option Nat
  | [] => some n
  | c :: rest =>
    match digitValue c with
    | some d => if d < base then digitsFrom base (base * n + d) rest else none
    | none => none

/-- The number that one or more digits of a base spell. -/
def digits (base : Nat) (cs : List Char) : Option Nat :=
  if cs.isEmpty then none else digitsFrom base 0 cs

/-- A sign, and the text after it. -/
def splitSign : List Char → Bool × List Char
  | '-' :: rest => (true, rest)
  | '+' :: rest => (false, rest)
  | cs => (false, cs)

/-- Splits a text at the letter before an exponent. -/
def splitExponent (cs : List Char) : List Char × Option (List Char) :=
  match cs.span fun c => c != 'e' && c != 'E' with
  | (mantissa, _ :: exponent) => (mantissa, some exponent)
  | (mantissa, []) => (mantissa, none)

/-- The exponent that a text spells. -/
def exponent (cs : List Char) : Option Int :=
  let (negative, rest) := splitSign cs
  (digits 10 rest).map fun n => if negative then -(n : Int) else n

/-- The number that a decimal numeral spells: an optional sign, digits with a point anywhere among
them or none, and an optional exponent. -/
def float (cs : List Char) : Option Binary64 := do
  let (negative, rest) := splitSign cs
  let (mantissa, power) := splitExponent rest
  let e ← match power with
    | some p => exponent p
    | none => some 0
  let (whole, fraction) := mantissa.span (· != '.')
  let fraction := fraction.drop 1
  let n ← digits 10 (whole ++ fraction)
  pure (Binary64.ofDecimal negative n (e - (fraction.length : Int)))

end TwinTypes.Numeral
