import TwinTypes.Text.Quoted
import TwinTypes.Yaml.Cursor
import TwinTypes.Yaml.Resolve

/-!
# Writing documents

`print` writes a value as a YAML document in block style. A text is written plainly where that reads
back as the same text, and otherwise in the least form that does: between single quotes, in lines of
its own if it has any, or between double quotes with escapes.

The items of a list are not further in than the key above them, and an empty list or record is
written as a pair of brackets.
-/

namespace TwinTypes.Yaml

open Text

/-! ### What a text looks like -/

/-- A character that can be written as it is, apart from line breaks other than a line feed. -/
def isPrintable (c : Char) : Bool :=
  let n := c.toNat
  n == 0x0A || (decide (0x20 ≤ n) && decide (n ≤ 0x7E))
    || (decide (0xA0 ≤ n) && decide (n ≤ 0xD7FF))
    || (decide (0xE000 ≤ n) && decide (n < 0xFFFE) && n != 0xFEFF) || decide (0x10000 ≤ n)

/-- Any line break. -/
def isAnyBreak (c : Char) : Bool :=
  Mark.isBreak c || c == '\r' || c == '\u0085'

/-- Whether a text ends here, or goes on with a blank or a line break. -/
def endsWordAt (rest : List Char) : Bool :=
  match rest with
  | [] => true
  | c :: _ => isSpace c || isAnyBreak c || c == '\x00'

/-- Whether a text begins with something that would not be read as the beginning of a text. -/
def beginsAsSign (cs : List Char) : Bool :=
  match cs with
  | [] => false
  | '-' :: '-' :: '-' :: _ => true
  | '.' :: '.' :: '.' :: _ => true
  | c :: rest =>
    "#,[]\x7b\x7d&*!|>'\"%@\x60".toList.contains c
      || ("?:-".toList.contains c && endsWordAt rest)

/-- Whether a text has a colon or a number sign that would not be read as part of a text. `before`
says whether the character before is a blank or a break. -/
def holdsSign (before : Bool) : List Char → Bool
  | [] => false
  | c :: rest =>
    (c == ':' && endsWordAt rest) || (c == '#' && before) || holdsSign (endsWordAt [c]) rest

/-- Whether one character of the first class comes right before one of the second. -/
def holdsPair (first second : Char → Bool) : List Char → Bool
  | a :: b :: rest => (first a && second b) || holdsPair first second (b :: rest)
  | _ => false

/-- Whether a text is a space or a line break at one of its ends. -/
def isOpenAtEnds (cs : List Char) : Bool :=
  let gap (c : Char) : Bool := c == ' ' || isAnyBreak c
  cs.head?.any gap || cs.getLast?.any gap

/-- Whether a text has characters that only escapes can write, or blanks that only quotes keep. -/
def needsEscapes (cs : List Char) : Bool :=
  cs.any (fun c => !isPrintable c) || holdsPair (· == ' ') isAnyBreak cs

/-- Whether a text can be written without quotes. -/
def allowsPlain (cs : List Char) : Bool :=
  !isOpenAtEnds cs && !needsEscapes cs && !cs.any isAnyBreak && !beginsAsSign cs
    && !holdsSign true cs

/-- Whether a text can be written between single quotes. -/
def allowsSingle (cs : List Char) : Bool :=
  !needsEscapes cs && !holdsPair isAnyBreak (· == ' ') cs

/-- Whether a text can be written in lines of its own. -/
def allowsBlock (cs : List Char) : Bool :=
  !needsEscapes cs && cs.getLast? != some ' '

/-- Whether a text would be read as something else if it were written plainly. -/
def isAmbiguous (s : String) : Bool :=
  isPadded s.toList || match plainMeaning s with
    | .value (.text _) => false
    | _ => true

/-- How a text is written. -/
def styleOf (s : String) : ScalarStyle :=
  let cs := s.toList
  if cs.contains '\n' then (if allowsBlock cs then .block else .double)
  else if allowsPlain cs && !isAmbiguous s then .plain
  else if allowsSingle cs then .single
  else .double

/-! ### Texts -/

/-- So many spaces. -/
def indentation (n : Nat) : List Char :=
  List.replicate n ' '

/-- The part of a text between single quotes that is to be written; `broken` says that the line has
ended. -/
def singleBody (indent : Nat) : Bool → List Char → List Char
  | broken, [] => if broken then indentation indent else []
  | broken, c :: rest =>
    if isAnyBreak c then c :: singleBody indent true rest
    else
      (if broken then indentation indent else []) ++ (if c == '\'' then ['\'', '\''] else [c])
        ++ singleBody indent false rest

/-- The letter that escapes a character. -/
def escapeLetter (c : Char) : Option Char :=
  match c with
  | '\x00' => some '0'
  | '\x07' => some 'a'
  | '\x08' => some 'b'
  | '\t' => some 't'
  | '\n' => some 'n'
  | '\x0b' => some 'v'
  | '\x0c' => some 'f'
  | '\r' => some 'r'
  | '\x1b' => some 'e'
  | '"' => some '"'
  | '\\' => some '\\'
  | '\u0085' => some 'N'
  | '\u2028' => some 'L'
  | '\u2029' => some 'P'
  | _ => none

/-- A number by so many capital hexadecimal digits. -/
def capitalHex (width n : Nat) : List Char :=
  (hexadecimal width n).map Char.toUpper

/-- One character between double quotes. -/
def doubleChar (c : Char) : List Char :=
  match escapeLetter c with
  | some letter => ['\\', letter]
  | none =>
    if isPrintable c then [c]
    else if c.toNat ≤ 0xFF then '\\' :: 'x' :: capitalHex 2 c.toNat
    else if c.toNat ≤ 0xFFFF then '\\' :: 'u' :: capitalHex 4 c.toNat
    else '\\' :: 'U' :: capitalHex 8 c.toNat

/-- The lines of a text, each as far in as is asked, up to the end of the last line. -/
def blockBody (indent : Nat) : Bool → List Char → List Char
  | _, [] => []
  | broken, c :: rest =>
    if isAnyBreak c then c :: blockBody indent true rest
    else (if broken then indentation indent else []) ++ c :: blockBody indent false rest

/-- The signs that say how the lines of a text are to be read. -/
def blockHints (cs : List Char) : List Char :=
  (if cs.head?.any fun c => c == ' ' || isAnyBreak c then ['2'] else [])
    ++ match cs.reverse with
      | [] => ['-']
      | [c] => if isAnyBreak c then ['+'] else ['-']
      | c :: d :: _ => if !isAnyBreak c then ['-'] else if isAnyBreak d then ['+'] else []

/-- A text up to the end of its last line, given how far in its further lines are. -/
def textLine (indent : Nat) (s : String) : List Char :=
  let cs := s.toList
  match styleOf s with
  | .plain => cs ++ ['\n']
  | .single => '\'' :: (singleBody indent false cs ++ ['\'', '\n'])
  | .double => '"' :: (cs.flatMap doubleChar ++ ['"', '\n'])
  | .block =>
    '|' :: (blockHints cs ++ '\n' :: blockBody indent true cs)
      ++ (if cs.getLast?.any isAnyBreak then [] else ['\n'])

/-- A text as a key. -/
def keyText (s : String) : List Char :=
  let cs := s.toList
  if allowsPlain cs && !cs.isEmpty && !isAmbiguous s then cs
  else if allowsSingle cs && !cs.any isAnyBreak then '\'' :: (singleBody 0 false cs ++ ['\''])
  else '"' :: (cs.flatMap doubleChar ++ ['"'])

/-! ### Values -/

/-- A scalar up to the end of its last line. -/
def scalarLine (indent : Nat) : Value → List Char
  | .null => "null\n".toList
  | .bool b => (if b then "true\n" else "false\n").toList
  | .int n => (toString n).toList ++ ['\n']
  | .float x => (floatText x).toList ++ ['\n']
  | .text s => textLine indent s
  | _ => ['\n']

/-- A value as a key. -/
def keyLine : Value → List Char
  | .text s => keyText s
  | v => (scalarLine 0 v).dropLast

mutual

/-- A value after the dash of an item at an indentation; its further lines are two further in. -/
def itemText (indent : Nat) : Value → List Char
  | .list items => if items.isEmpty then "[]\n".toList else itemLines (indent + 2) false items
  | .record fields =>
    if fields.isEmpty then "\x7b\x7d\n".toList else fieldLines (indent + 2) false fields
  | .tagged tag content => '!' :: (tag.toList ++ ' ' :: itemText indent content)
  | v => scalarLine (indent + 2) v

/-- A value after the colon of a key at an indentation. -/
def fieldText (indent : Nat) : Value → List Char
  | .list items => if items.isEmpty then " []\n".toList else '\n' :: itemLines indent true items
  | .record fields =>
    if fields.isEmpty then " \x7b\x7d\n".toList else '\n' :: fieldLines (indent + 2) true fields
  | .tagged tag content => ' ' :: '!' :: (tag.toList ++ fieldText indent content)
  | v => ' ' :: scalarLine (indent + 2) v

/-- The items of a list; `fresh` says that the first one begins a line. -/
def itemLines (indent : Nat) (fresh : Bool) : List Value → List Char
  | [] => []
  | v :: rest =>
    (if fresh then indentation indent else []) ++ '-' :: ' ' :: itemText indent v
      ++ itemLines indent true rest

/-- The fields of a record; `fresh` says that the first one begins a line. -/
def fieldLines (indent : Nat) (fresh : Bool) : List (Value × Value) → List Char
  | [] => []
  | f :: rest =>
    (if fresh then indentation indent else []) ++ fieldLine indent f ++ fieldLines indent true rest

/-- A field of a record. -/
def fieldLine (indent : Nat) : Value × Value → List Char
  | (k, v) => keyLine k ++ ':' :: fieldText indent v

end

/-- **A value as a YAML document.** -/
def print (v : Value) : String :=
  String.ofList (match v with
    | .list items => if items.isEmpty then "[]\n".toList else itemLines 0 true items
    | .record fields => if fields.isEmpty then "\x7b\x7d\n".toList else fieldLines 0 true fields
    | v => scalarLine 2 v)

end TwinTypes.Yaml
