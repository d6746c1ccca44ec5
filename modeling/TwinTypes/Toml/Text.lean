import TwinTypes.Data.Numeral
import TwinTypes.Toml.Parser

/-!
# Blanks, strings and keys
-/

namespace TwinTypes.Toml

open TwinTypes.Toml.Parser

/-! ### Blanks and comments -/

/-- A blank. -/
def isBlank (c : Char) : Bool :=
  c == ' ' || c == '\t'

/-- A character that may stand in a comment, or in a string between quotes other than its own. -/
def isTextChar (c : Char) : Bool :=
  c == '\t' || (decide (0x20 ≤ c.toNat) && c.toNat != 0x7F)

/-- Reads blanks. -/
def blanks : Parser Unit := do
  let _ ← run isBlank

/-- Reads a line end. -/
def newline : Parser Unit :=
  orElse (word ['\n']) (word ['\r', '\n'])

/-- Reads a comment. -/
def comment : Parser Unit := do
  char '#'
  let _ ← run isTextChar

/-- Reads a line end or the end of the text. -/
def lineEnd : Parser Unit :=
  orElse newline atEnd

/-- Reads the rest of a line on which nothing more may stand. -/
def lineRest : Parser Unit :=
  (do
    blanks
    let _ ← comment.optional
    lineEnd).expecting "newline" |>.expecting "`#`"

/-- Reads blanks, comments and line ends. -/
def gaps : Parser Unit := do
  let _ ← repeated (orElse (do let _ ← run1 isBlank) (orElse newline comment))

/-! ### Escapes -/

/-- Reads a character given by so many hexadecimal digits. -/
def hexEscape (count : Nat) (label : String) : Parser Char :=
  (do
    let digits ← exactly count fun c => (Numeral.digitValue c).isSome
    match Numeral.digits 16 digits with
    | some n =>
      if Nat.isValidChar n then pure (Char.ofNat n)
      else wrong (.because "value is out of range")
    | none => missing .none).must.named label

/-- The letters of escapes, as a message lists them. -/
def escapeLetters : List String :=
  ["`b`", "`f`", "`n`", "`r`", "`t`", "`u`", "`U`", "`\\`", "`\"`"]

/-- Reads what follows the backslash of an escape. -/
def escapeRest : Parser Char := do
  let c ← one fun _ => true
  match c with
  | 'b' => pure '\x08'
  | 'f' => pure '\x0c'
  | 'n' => pure '\n'
  | 'r' => pure '\r'
  | 't' => pure '\t'
  | 'u' => hexEscape 4 "unicode 4-digit hex code"
  | 'U' => hexEscape 8 "unicode 8-digit hex code"
  | '\\' => pure '\\'
  | '"' => pure '"'
  | _ => wrong ⟨some "escape sequence", escapeLetters, none⟩

/-- Reads an escape. -/
def escape : Parser (List Char) := do
  char '\\'
  let c ← escapeRest
  pure [c]

/-! ### Strings -/

/-- A character that stands for itself between double quotes. -/
def isBasicChar (c : Char) : Bool :=
  isTextChar c && c != '"' && c != '\\'

/-- A character that may stand between single quotes. -/
def isLiteralChar (c : Char) : Bool :=
  isTextChar c && c != '\''

/-- Reads a string between double quotes. -/
def basicString : Parser String := do
  char '"'
  let parts ← repeated (orElse (run1 isBasicChar) escape)
  (char '"').must.named "basic string"
  pure (String.ofList parts.flatten)

/-- Reads a string between single quotes. -/
def literalString : Parser String := do
  char '\''
  let text ← run isLiteralChar
  (char '\'').must.named "literal string"
  pure (String.ofList text)

/-- Reads one or two quotes that do not end a string of several lines, together with what follows
them; three or more end it. -/
def innerQuotes (quote : Char) (content : Parser (List Char)) : Parser (List Char) := do
  let quotes ← run1 (· == quote)
  if quotes.length < 3 then do
    let next ← content
    pure (quotes ++ next)
  else missing .none

/-- Reads the quotes that end a string of several lines. Up to two more before them are part of the
string. -/
def closingQuotes (quote : Char) : Parser (List Char) := do
  let cs ← ahead
  let count := (cs.takeWhile (· == quote)).length
  let extra := List.replicate (min 2 (count - 3)) quote
  word extra
  word [quote, quote, quote]
  pure extra

/-- Reads the body of a string of several lines and what ends it. -/
def multilineBody (quote : Char) (content : Parser (List Char)) (label : String) :
    Parser String :=
  (do
    let _ ← newline.optional
    let parts ← repeated (orElse content (innerQuotes quote content))
    let extra ← closingQuotes quote
    pure (String.ofList (parts.flatten ++ extra))).must.named label

/-- Reads a backslash at the end of a line, with the blanks and line ends that follow. -/
def lineContinuation : Parser (List Char) := do
  char '\\'
  blanks
  newline
  let _ ← repeated (orElse (do let _ ← run1 isBlank) newline)
  pure []

/-- Reads a line end as a line feed. -/
def innerNewline : Parser (List Char) := do
  newline
  pure ['\n']

/-- Reads a string of several lines between double quotes. -/
def multilineBasicString : Parser String := do
  word "\"\"\"".toList
  multilineBody '"'
    (orElse (run1 isBasicChar) (orElse lineContinuation (orElse escape innerNewline)))
    "multiline basic string"

/-- Reads a string of several lines between single quotes. -/
def multilineLiteralString : Parser String := do
  word "'''".toList
  multilineBody '\'' (orElse (run1 isLiteralChar) innerNewline) "multiline literal string"

/-- Reads a string. -/
def string : Parser String :=
  orElse multilineBasicString
    (orElse basicString (orElse multilineLiteralString literalString))

/-! ### Keys -/

/-- A character of a key without quotes. -/
def isKeyChar (c : Char) : Bool :=
  c.isAlphanum || c == '-' || c == '_'

/-- How deep arrays, tables and keys may be nested. -/
def depthLimit : Nat :=
  80

/-- Reads a key without dots. -/
def simpleKey : Parser String := do
  blanks
  let key ← orElse basicString
    (orElse literalString (do pure (String.ofList (← run1 isKeyChar))))
  blanks
  pure key

/-- Reads a key: simple keys with dots between them. -/
def key : Parser (List String) := do
  let path ← (do
    let first ← simpleKey
    let others ← repeated (do
      char '.'
      simpleKey)
    pure (first :: others)).named "key"
  if depthLimit ≤ path.length then missing (.because "recursion limit exceeded") else pure path

end TwinTypes.Toml
