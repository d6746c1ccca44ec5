import TwinTypes.Yaml.Mark

/-!
# Reading a text character by character

A `Cursor` is the part of a text that is still to be read, and the place where it begins. The
classes of characters that the rules of YAML speak of are here too.
-/

namespace TwinTypes.Yaml

/-! ### Classes of characters -/

/-- A blank: a space or a tab. -/
def isSpace (c : Char) : Bool :=
  c == ' ' || c == '\t'

/-- A blank or a line break. -/
def isGap (c : Char) : Bool :=
  isSpace c || Mark.isBreak c

/-- A character of the names that YAML itself gives: a letter, a digit, a dash, an underscore. -/
def isNameChar (c : Char) : Bool :=
  c.isAlphanum || c == '_' || c == '-'

/-- Whether a text ends here, or goes on with a blank or a line break. -/
def endsWord (rest : List Char) : Bool :=
  match rest with
  | [] => true
  | c :: _ => isGap c

/-- Whether a text ends here, or goes on with a line break. -/
def endsLine (rest : List Char) : Bool :=
  match rest with
  | [] => true
  | c :: _ => Mark.isBreak c

/-- Whether a line that starts here marks the start or the end of a document. -/
def isDocumentMarker (rest : List Char) : Bool :=
  match rest with
  | a :: b :: c :: tail =>
    a == b && b == c && (a == '-' || a == '.') && endsWord tail
  | _ => false

/-- The value of a hexadecimal digit. -/
def hexValue (c : Char) : Option Nat :=
  if c.isDigit then some (c.toNat - 48)
  else if 'a' ≤ c ∧ c ≤ 'f' then some (c.toNat - 87)
  else if 'A' ≤ c ∧ c ≤ 'F' then some (c.toNat - 55)
  else none

/-! ### Cursors -/

/-- The part of a text that is still to be read. -/
structure Cursor where
  /-- The characters to be read. -/
  rest : List Char
  /-- The place of the first of them. -/
  mark : Mark
  deriving Repr, Inhabited

namespace Cursor

/-- The first character. -/
def peek (c : Cursor) : Option Char :=
  c.rest.head?

/-- Past the first character. -/
def next (c : Cursor) : Cursor :=
  match c.rest with
  | [] => c
  | x :: rest => ⟨rest, c.mark.after x⟩

/-- Past so many characters. -/
def skip : Nat → Cursor → Cursor
  | 0, c => c
  | n + 1, c => skip n c.next

/-- The characters of a class that come first, and the cursor past them. -/
def span (inClass : Char → Bool) (c : Cursor) : List Char × Cursor :=
  let word := c.rest.takeWhile inClass
  (word, skip word.length c)

/-- Past the characters of a class that come first. -/
def drop (inClass : Char → Bool) (c : Cursor) : Cursor :=
  (c.span inClass).2

/-- The fault that shows here, in something that began elsewhere. -/
def fault (c : Cursor) (context : String) (start : Mark) (problem : String) : Fault :=
  ⟨problem, c.mark, some (context, start)⟩

/-- Past blanks and a comment up to the end of the line. -/
def dropLineRest (c : Cursor) : Cursor :=
  let c := c.drop isSpace
  if c.peek == some '#' then c.drop fun x => !Mark.isBreak x else c

end Cursor

end TwinTypes.Yaml
