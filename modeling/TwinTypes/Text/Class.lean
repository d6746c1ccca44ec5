import TwinTypes.Text.Property

/-!
# Classes of characters

The four classes that the text rules of this library ask about: blanks, characters of a word,
letters and digits, and characters that a quotation shows as they are. Each is a union of the
properties of `TwinTypes.Text.Property`; below 128 the answer is spelt out, so that a question
about an ASCII character never touches a table.
-/

namespace TwinTypes.Text

/-- Whether a code point lies in one of the closed ranges. -/
def inRanges (ranges : List (Nat × Nat)) (n : Nat) : Bool :=
  ranges.any fun r => decide (r.1 ≤ n) && decide (n ≤ r.2)

/-- White space: the characters that trimming removes and that separate words. -/
def isBlank (c : Char) : Bool :=
  inRanges Property.whiteSpace c.toNat

/-- A character of a word: a letter, a mark, a decimal digit, a connector such as the underscore,
or one of the two invisible joiners. -/
def isWord (c : Char) : Bool :=
  if c.toNat < 128 then c.isAlphanum || c == '_'
  else
    inRanges Property.alphabetic c.toNat || inRanges Property.mark c.toNat
      || inRanges Property.decimalDigit c.toNat || inRanges Property.connector c.toNat
      || c.toNat == 0x200C || c.toNat == 0x200D

/-- A letter or a number of any kind. -/
def isAlphanumeric (c : Char) : Bool :=
  if c.toNat < 128 then c.isAlphanum
  else
    inRanges Property.alphabetic c.toNat || inRanges Property.decimalDigit c.toNat
      || inRanges Property.otherNumber c.toNat

/-- A character that a quotation shows as it is: it has a visible form and does not attach to its
neighbour. -/
def isVisible (c : Char) : Bool :=
  if c.toNat < 128 then decide (0x20 ≤ c.toNat) && decide (c.toNat < 0x7F)
  else !inRanges Property.extender c.toNat && !inRanges Property.hidden c.toNat

/-- Text without the blanks at its front. -/
def dropBlanks (cs : List Char) : List Char :=
  cs.dropWhile isBlank

/-- Text without the blanks at either end. -/
def trim (cs : List Char) : List Char :=
  (dropBlanks (dropBlanks cs).reverse).reverse

/-- A string without the blanks at either end. -/
def trimmed (s : String) : String :=
  String.ofList (trim s.toList)

end TwinTypes.Text
