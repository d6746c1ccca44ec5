import TwinTypes.Data.Power

/-!
# Floating-point numbers

The numbers of the 64-bit binary format, as exact values: a whole mantissa times a power of two, or
one of the values that are not finite. Reading rounds a decimal numeral to the nearest such number,
ties to even; showing gives the shortest numeral that reads back as the same number. Everything is
whole-number arithmetic, so nothing here depends on what a machine does with floating point.
-/

namespace TwinTypes

/-- A number of the 64-bit binary format. -/
inductive Binary64 where
  /-- Not a number. -/
  | nan
  /-- An infinity. -/
  | infinite (negative : Bool)
  /-- The mantissa times two to the power of the exponent, in lowest form: the mantissa is below
  `2 ^ 53`, and at least `2 ^ 52` unless the exponent is the least one. -/
  | finite (negative : Bool) (mantissa : Nat) (exponent : Int)
  deriving DecidableEq, Repr, Inhabited

namespace Binary64

/-- The least exponent. -/
def leastExponent : Int :=
  -1074

/-- The greatest exponent. -/
def greatestExponent : Int :=
  971

/-- Two to the power of an exponent, as a fraction. -/
def powerOfTwo (e : Int) : Nat × Nat :=
  if 0 ≤ e then (twoTo e.toNat, 1) else (1, twoTo (-e).toNat)

/-- Ten to the power of an exponent, as a fraction. -/
def powerOfTen (e : Int) : Nat × Nat :=
  if 0 ≤ e then (tenTo e.toNat, 1) else (1, tenTo (-e).toNat)

/-- The whole number nearest to a fraction, the even one of two. -/
def roundHalfEven (num den : Nat) : Nat :=
  let q := num / den
  let r := num % den
  if 2 * r < den then q
  else if den < 2 * r then q + 1
  else if q % 2 = 0 then q else q + 1

/-- The number nearest to a fraction, ties to the even mantissa. -/
def ofFraction (negative : Bool) (num den : Nat) : Binary64 :=
  if num = 0 ∨ den = 0 then finite negative 0 leastExponent
  else
    let guess : Int := (Nat.log2 num : Int) - (Nat.log2 den : Int) - 52
    let scaled (e : Int) : Nat × Nat := (num * (powerOfTwo (-e)).1, den * (powerOfTwo (-e)).2)
    let first := max guess leastExponent
    let small := (scaled first).1 < twoTo 52 * (scaled first).2
    let e := if small then max (first - 1) leastExponent else first
    let m := roundHalfEven (scaled e).1 (scaled e).2
    let (m, e) := if m = twoTo 53 then (twoTo 52, e + 1) else (m, e)
    if greatestExponent < e then infinite negative else finite negative m e

/-- The number nearest to a whole number of digits times a power of ten. An exponent so far out that
the result is an infinity or a zero is not computed with. -/
def ofDecimal (negative : Bool) (digits : Nat) (exponent : Int) : Binary64 :=
  if digits = 0 then finite negative 0 leastExponent
  else
    let size : Int := (Nat.toDigits 10 digits).length
    if 310 < size + exponent then infinite negative
    else if size + exponent < -330 then finite negative 0 leastExponent
    else
      let (num, den) := powerOfTen exponent
      ofFraction negative (digits * num) den

/-- Whether a number is finite. -/
def isFinite : Binary64 → Bool
  | finite .. => true
  | _ => false

/-- Whether two numbers are the same, where the two zeros are and where nothing tells one value that
is not a number from another. -/
def same : Binary64 → Binary64 → Bool
  | nan, nan => true
  | infinite s, infinite t => s == t
  | finite s m e, finite t n f => (m == 0 && n == 0) || (s == t && m == n && e == f)
  | _, _ => false

/-! ### The shortest numeral -/

/-- How many places the decimal point of a fraction stands after its first digit that is not zero,
looked for from `place` on downward. -/
def placeBelow (num den : Nat) (place : Int) : Nat → Int
  | 0 => place
  | fuel + 1 =>
    let (p, q) := powerOfTen (place - 1)
    if p * den ≤ num * q then place else placeBelow num den (place - 1) fuel

/-- The place of the decimal point: the least power of ten above the fraction. -/
def decimalPlace (num den : Nat) : Int :=
  placeBelow num den (Nat.toDigits 10 (num / den)).length 340

/-- Of the two numerals of this many digits next to a number, the nearer one that reads back as the
number, if one does: its digits and its exponent. -/
def numeralOf (mantissa : Nat) (exponent : Int) (num den : Nat) (place : Int) (count : Nat) :
    Option (Nat × Int) :=
  let e := place - (count : Int)
  let (p, q) := powerOfTen (-e)
  let low := num * p / (den * q)
  let rest := num * p % (den * q)
  let fits (d : Nat) : Bool := ofDecimal false d e == finite false mantissa exponent
  let upFirst := den * q < 2 * rest
  let (one, other) := if upFirst then (low + 1, low) else (low, low + 1)
  if fits one then some (one, e) else if fits other then some (other, e) else none

/-- The digits and the exponent of the shortest numeral of a number that is not zero; seventeen
digits always suffice. -/
def shortest (mantissa : Nat) (exponent : Int) : Nat × Int :=
  let (p, q) := powerOfTwo exponent
  let num := mantissa * p
  let place := decimalPlace num q
  ((List.range 17).findSome? fun i => numeralOf mantissa exponent num q place (i + 1)).getD (0, 0)

/-- The digits without zeros at the end, and how many there were. -/
def dropZeros (digits : List Char) : List Char × Nat :=
  let kept := (digits.reverse.dropWhile (· == '0')).reverse
  (kept, digits.length - kept.length)

/-- The significant digits of a number that is not zero, and the place of the decimal point after
the first of them. -/
def significant (mantissa : Nat) (exponent : Int) : List Char × Int :=
  let (digits, e) := shortest mantissa exponent
  let (kept, dropped) := dropZeros (Nat.toDigits 10 digits)
  (kept, (kept.length : Int) + e + (dropped : Int))

/-- So many zeros. -/
def zeros (n : Int) : List Char :=
  List.replicate n.toNat '0'

/-- Digits with the decimal point at a place, always with a digit on either side of the point. -/
def pointed (digits : List Char) (place : Int) : List Char :=
  if place ≤ 0 then '0' :: '.' :: (zeros (-place) ++ digits)
  else if (digits.length : Int) ≤ place then
    digits ++ zeros (place - digits.length) ++ ['.', '0']
  else digits.take place.toNat ++ '.' :: digits.drop place.toNat

/-- The sign of a numeral. -/
def sign (negative : Bool) : List Char :=
  if negative then ['-'] else []

/-- A number without an exponent, however long that gets. -/
def positional : Binary64 → String
  | nan => "NaN"
  | infinite negative => String.ofList (sign negative ++ "inf".toList)
  | finite negative mantissa exponent =>
    if mantissa = 0 then String.ofList (sign negative ++ "0.0".toList)
    else
      let (digits, place) := significant mantissa exponent
      String.ofList (sign negative ++ pointed digits place)

/-- A number with an exponent where that is shorter: from ten to the power of sixteen on, and below
a hundred-thousandth. -/
def compact : Binary64 → String
  | nan => "NaN"
  | infinite negative => String.ofList (sign negative ++ "inf".toList)
  | finite negative mantissa exponent =>
    if mantissa = 0 then String.ofList (sign negative ++ "0.0".toList)
    else
      let (digits, place) := significant mantissa exponent
      let body :=
        if -5 < place ∧ place ≤ 16 then pointed digits place
        else
          let mark := match digits with
            | [d] => [d]
            | d :: rest => d :: '.' :: rest
            | [] => []
          mark ++ 'e' :: (toString (place - 1)).toList
      String.ofList (sign negative ++ body)

end Binary64

end TwinTypes
