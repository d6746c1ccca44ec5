import TwinTypes.Toml.Scalar
import TwinTypes.Toml.Table

/-!
# Documents

`parse` reads a TOML document as the value of its root table.

Arrays and inline tables nest, and each level of nesting uses up one of the levels that are allowed,
which is also why the reading of values ends.
-/

namespace TwinTypes.Toml

open TwinTypes.Toml.Parser

/-! ### Values -/

/-- A scalar as an entry. -/
def ofScalar (p : Parser Scalar) : Parser Item := do
  let s ← p
  pure (.value s.typeName s.value)

/-- Reads a word that stands for a value; anything else with its first letter is taken for a string
without quotes. -/
def constant (w : String) (s : Scalar) : Parser Scalar :=
  ((do
    word w.toList
    pure s).must.named "string").expecting "`\"`" |>.expecting "`'`"

/-- The complaint about something that is no value. -/
def noValue : Problem :=
  ⟨some "string", ["`\"`", "`'`"], none⟩

/-- Whether a number, a date or a time may begin with a character. -/
def beginsNumber (c : Char) : Bool :=
  c == '+' || c == '-' || c.isDigit

/-- Reads a value that is no array and no table, given its first character. -/
def scalar (c : Char) : Parser Scalar :=
  if c == '"' || c == '\'' then do pure ⟨"string", .text (← string)⟩
  else if beginsNumber c then orElse dateTime (orElse float integer)
  else if c == '_' then integer.expecting "leading digit"
  else if c == '.' then float.expecting "leading digit"
  else if c == 't' then constant "true" ⟨"boolean", .bool true⟩
  else if c == 'f' then constant "false" ⟨"boolean", .bool false⟩
  else if c == 'i' || c == 'n' then
    ((floatName false).named "string").expecting "`\"`" |>.expecting "`'`"
  else missing noValue

/-- Reads the items of an array and what closes it. -/
def arrayRest (value : Parser Item) : Parser Item := do
  let items ← separated (do
    gaps
    let item ← value
    gaps
    pure item) (char ',')
  if items.isEmpty then pure () else do
    let _ ← (char ',').optional
    pure ()
  gaps
  ((char ']').must.named "array").expecting "`]`"
  pure (.value "array" (.list (items.map Item.toValue)))

/-- Reads a key and its value, up to the blanks after the value. -/
def entry (value : Parser Item) : Parser (List String × Item) := do
  let path ← key
  (do
    (char '=').expecting "`.`" |>.expecting "`=`"
    blanks
    let item ← value
    pure (path, item)).must

/-- The inline table of some entries. -/
def inlineOf (entries : List (List String × Item)) : Except Problem Table :=
  entries.foldlM
    (fun t e => addInline e.2 (e.1.getLast?.getD "") [] e.1.dropLast t) .blank

/-- Reads the entries of an inline table and what closes it. -/
def inlineRest (value : Parser Item) : Parser Item := do
  let entries ← separated (do
    let e ← entry value
    blanks
    pure e) (char ',')
  blanks
  match inlineOf entries with
  | .error problem => wrong problem
  | .ok t => do
    ((char '\x7d').must.named "inline table").expecting "`\x7d`"
    pure (.inline t)

/-- The complaint about nesting that goes too deep. -/
def tooDeep : Problem :=
  .because "recursion limit exceeded"

/-- Reads a value that is no array and no table. -/
def scalarValue : Parser Item := do
  let cs ← ahead
  match cs with
  | [] => missing .none
  | c :: _ => ofScalar (scalar c)

/-- Reads a value within so many levels of nesting. -/
def value : Nat → Parser Item
  | 0 => do
    let cs ← ahead
    match cs with
    | '[' :: _ => wrong tooDeep
    | '\x7b' :: _ => wrong tooDeep
    | _ => scalarValue
  | depth + 1 => do
    let cs ← ahead
    match cs with
    | '[' :: _ => do
      char '['
      (arrayRest (value depth)).must
    | '\x7b' :: _ => do
      char '\x7b'
      (inlineRest (value depth)).must
    | _ => scalarValue

/-! ### Lines -/

/-- Goes on with a result, or goes wrong. -/
def orWrong {α : Type} (result : Except Problem α) : Parser α :=
  match result with
  | .ok a => pure a
  | .error problem => wrong problem

/-- Reads a line with a key and a value. -/
def entryLine (d : Draft) : Parser Draft := do
  let (path, item) ← (do
    let e ← entry (value (depthLimit - 1))
    lineRest
    pure e).must
  orWrong (d.addEntry path.dropLast (path.getLast?.getD "") item)

/-- Reads a header between brackets. -/
def header (opening closing : String) (expected : String) : Parser (List String) := do
  word opening.toList
  let path ← key.must
  ((word closing.toList).must.expecting "`.`").expecting expected
  lineRest.must
  pure path

/-- Reads a line with a header. -/
def headerLine (d : Draft) : Parser Draft :=
  (do
    let cs ← ahead
    match cs with
    | ['['] => wrong .none
    | '[' :: '[' :: _ => do
      let path ← header "[[" "]]" "`]]`"
      orWrong (d.beginElement path)
    | _ => do
      let path ← header "[" "]" "`]`"
      orWrong (d.beginTable path)).must.named "table header"

/-- Reads a line. -/
def line (d : Draft) : Parser Draft := do
  let cs ← ahead
  let d ← (match cs with
    | [] => missing .none
    | '#' :: _ => do
      (do
        comment
        lineEnd).must
      pure d
    | '[' :: _ => headerLine d
    | '\n' :: _ => do
      newline
      pure d
    | '\r' :: _ => do
      newline
      pure d
    | _ => entryLine d)
  blanks
  pure d

/-- Reads lines as long as they come, at most `fuel` of them; each has at least one character. -/
def lines : Nat → Draft → Parser Draft
  | 0, d => pure d
  | fuel + 1, d => do
    match ← (line d).optional with
    | some d => lines fuel d
    | none => pure d

/-- Reads a document. -/
def document : Parser Table := do
  let _ ← (char '\ufeff').optional
  blanks
  let cs ← ahead
  let d ← lines cs.length .start
  atEnd
  let d ← orWrong d.settle
  pure d.root

/-- **The value of a TOML document**, or what is wrong with the text. -/
def parse (text : String) : Except String Value :=
  match document text.toList with
  | .found t _ => .ok t.toValue
  | .absent problem => .error problem.message
  | .broken problem => .error problem.message

end TwinTypes.Toml
