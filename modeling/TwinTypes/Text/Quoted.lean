import TwinTypes.Text.Class

/-!
# Quotation

How a text is shown inside a message: between double quotes, with an escape for each character that
would not show as itself. `quote` is what messages call.
-/

namespace TwinTypes.Text

/-- The hexadecimal digit of a number below sixteen, in lower case. -/
def hexDigit (n : Nat) : Char :=
  if n < 10 then Char.ofNat (48 + n) else Char.ofNat (87 + n)

/-- A number in hexadecimal, at least `width` digits long. -/
def hexadecimal (width n : Nat) : List Char :=
  let digits := Nat.toDigits 16 n
  List.replicate (width - digits.length) '0' ++ digits

/-- One character of a quotation. -/
def quoteChar (c : Char) : List Char :=
  if c == '\x00' then ['\\', '0']
  else if c == '\t' then ['\\', 't']
  else if c == '\r' then ['\\', 'r']
  else if c == '\n' then ['\\', 'n']
  else if c == '"' || c == '\\' then ['\\', c]
  else if isVisible c then [c]
  else "\\u\x7b".toList ++ hexadecimal 1 c.toNat ++ ['\x7d']

/-- A text between double quotes, every character in it visible. -/
def quote (s : String) : String :=
  String.ofList ('"' :: (s.toList.flatMap quoteChar ++ ['"']))

/-- A list of texts, each quoted, between brackets. -/
def quoteList (items : List String) : String :=
  "[" ++ String.intercalate ", " (items.map quote) ++ "]"

end TwinTypes.Text
