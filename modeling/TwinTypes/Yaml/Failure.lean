import TwinTypes.Data.Cause
import TwinTypes.Yaml.Tree

/-!
# Why a document cannot be read

The failures of reading a YAML text, and their wording. A failure to make a value of a part of the
document names the part by the path that leads to it.
-/

namespace TwinTypes.Yaml

/-- The way from a document to a part of it. -/
inductive Path where
  /-- The whole document. -/
  | root
  /-- The item of this number. -/
  | item (parent : Path) (index : Nat)
  /-- The value under this key. -/
  | field (parent : Path) (key : String)
  /-- A value whose key is no scalar. -/
  | unknown (parent : Path)
  deriving DecidableEq, Repr, Inhabited

namespace Path

/-- A path in words. -/
def words : Path → String
  | root => "."
  | item parent index => parent.words ++ "[" ++ toString index ++ "]"
  | field parent key => (if parent = root then "" else parent.words ++ ".") ++ key
  | unknown parent => (if parent = root then "" else parent.words ++ ".") ++ "?"

end Path

/-- Why a text cannot be read. -/
inductive Failure where
  /-- There is a character that no YAML text may have, after so many bytes. -/
  | control (offset : Nat)
  /-- The document is cut off. -/
  | damaged (damage : Damage)
  /-- A part of the document is not what was expected. -/
  | unreadable (cause : Cause) (path : Path) (mark : Mark)
  /-- Collections are nested too deep. -/
  | tooDeep (mark : Mark)
  /-- References are followed too often. -/
  | tooLong
  /-- There is no content. -/
  | absent
  /-- There is more than one document. -/
  | several
  deriving Repr, Inhabited

/-- A failure in words. -/
def Failure.message : Failure → String
  | control offset =>
    "control characters are not allowed"
      ++ (if offset = 0 then "" else " at position " ++ toString offset)
  | damaged (.fault f) => f.message
  | damaged (.unknownAnchor mark) => "unknown anchor" ++ mark.suffix
  | unreadable cause path mark =>
    (if path.words = "." then "" else path.words ++ ": ")
      ++ cause.message .general ++ mark.suffix
  | tooDeep mark => "recursion limit exceeded" ++ mark.suffix
  | tooLong => "repetition limit exceeded"
  | absent => "EOF while parsing a value"
  | several => "deserializing from YAML containing more than one document is not supported"

/-- Whether a YAML text may have a character. -/
def isAllowed (c : Char) : Bool :=
  let n := c.toNat
  n == 9 || n == 10 || n == 13 || (decide (0x20 ≤ n) && decide (n ≤ 0x7E)) || n == 0x85
    || (decide (0xA0 ≤ n) && decide (n ≤ 0xD7FF)) || (decide (0xE000 ≤ n) && decide (n ≤ 0xFFFD))
    || decide (0x10000 ≤ n)

/-- How many bytes come before the first character that no YAML text may have, counted from
`offset`. -/
def firstControl (offset : Nat) : List Char → Option Nat
  | [] => none
  | c :: rest => if isAllowed c then firstControl (offset + c.utf8Size) rest else some offset

end TwinTypes.Yaml
