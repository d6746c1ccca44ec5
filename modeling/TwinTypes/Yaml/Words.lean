import TwinTypes.Data.Power
import TwinTypes.Yaml.Cursor
import TwinTypes.Yaml.Token

/-!
# Anchors, tags and directives

The tokens that are made of one word: each function reads one, starting at the sign that announces
it, and gives the token with the cursor past it.
-/

namespace TwinTypes.Yaml

/-- What a scanning function gives. -/
abbrev Scanned (α : Type) : Type :=
  Except Fault (α × Cursor)

/-- The token from a place to a cursor. -/
def tokenAt (start : Mark) (kind : TokenKind) (c : Cursor) : Token × Cursor :=
  (⟨kind, start, c.mark⟩, c)

/-! ### Anchors and aliases -/

/-- The characters, apart from gaps, that may follow the name of an anchor. -/
def followsAnchor (rest : List Char) : Bool :=
  endsWord rest || rest.head?.any "?:,]\x7d%@\x60".toList.contains

/-- Reads an anchor or an alias. -/
def scanAnchor (context : String) (make : String → TokenKind) (c : Cursor) : Scanned Token :=
  let start := c.mark
  let (name, c) := c.next.span isNameChar
  if name.isEmpty || !followsAnchor c.rest then
    .error (c.fault context start "did not find expected alphabetic or numeric character")
  else .ok (tokenAt start (make (String.ofList name)) c)

/-! ### The text of a tag -/

/-- A character of a tag. -/
def isTagChar (c : Char) : Bool :=
  isNameChar c || ";/?:@&=+$.!~*'()".toList.contains c

/-- A character of a tag between angle brackets or in a directive. -/
def isUriChar (c : Char) : Bool :=
  isTagChar c || ",[]".toList.contains c

/-- How many bytes a character takes whose encoding begins with this byte. -/
def encodedWidth (b : Nat) : Nat :=
  if b < 0x80 then 1
  else if 0xC0 ≤ b ∧ b < 0xE0 then 2
  else if 0xE0 ≤ b ∧ b < 0xF0 then 3
  else if 0xF0 ≤ b ∧ b < 0xF8 then 4
  else 0

/-- The part of a code point that the first byte of so many carries. -/
def leadingBits (width b : Nat) : Nat :=
  if width = 1 then b else b % twoTo (7 - width)

/-- Reads one byte written as a percent sign and two digits. -/
def scanByte (context : String) (start : Mark) (c : Cursor) : Scanned Nat :=
  match c.rest with
  | '%' :: a :: b :: _ =>
    match hexValue a, hexValue b with
    | some x, some y => .ok (16 * x + y, c.skip 3)
    | _, _ => .error (c.fault context start "did not find URI escaped octet")
  | _ => .error (c.fault context start "did not find URI escaped octet")

/-- Reads the bytes of a character after the first. -/
def scanBytes (context : String) (start : Mark) (code : Nat) : Nat → Cursor → Scanned Nat
  | 0, c => .ok (code, c)
  | n + 1, c =>
    match scanByte context start c with
    | .error f => .error f
    | .ok (b, after) =>
      if b / 64 = 2 then scanBytes context start (64 * code + b % 64) n after
      else .error (c.fault context start "found an incorrect trailing UTF-8 octet")

/-- Reads one character written as bytes. -/
def scanEscape (context : String) (start : Mark) (c : Cursor) : Scanned Char :=
  match scanByte context start c with
  | .error f => .error f
  | .ok (b, after) =>
    let width := encodedWidth b
    if width = 0 then .error (c.fault context start "found an incorrect leading UTF-8 octet")
    else
      match scanBytes context start (leadingBits width b) (width - 1) after with
      | .error f => .error f
      | .ok (code, c) => .ok (Char.ofNat code, c)

/-- Reads the characters of a tag, at most `fuel` of them; a text has no more than its length. -/
def scanTagChars (inTag : Char → Bool) (context : String) (start : Mark) :
    Nat → List Char → Cursor → Scanned (List Char)
  | 0, word, c => .ok (word.reverse, c)
  | fuel + 1, word, c =>
    match c.peek with
    | some '%' =>
      match scanEscape context start c with
      | .error f => .error f
      | .ok (x, c) => scanTagChars inTag context start fuel (x :: word) c
    | some x =>
      if inTag x then scanTagChars inTag context start fuel (x :: word) c.next
      else .ok (word.reverse, c)
    | none => .ok (word.reverse, c)

/-- Reads the text of a tag, which may go on from a handle that was no handle after all. -/
def scanTagText (inTag : Char → Bool) (directive : Bool) (start : Mark) (before : List Char)
    (c : Cursor) : Scanned (List Char) :=
  let context := if directive then "while parsing a %TAG directive" else "while parsing a tag"
  match scanTagChars inTag context start (c.rest.length + 1) [] c with
  | .error f => .error f
  | .ok (word, c) =>
    if before.isEmpty && word.isEmpty then
      .error (c.fault context start "did not find expected tag URI")
    else .ok (before.drop 1 ++ word, c)

/-- Reads a handle: an exclamation mark, a name, and another exclamation mark if there is one. -/
def scanHandle (directive : Bool) (start : Mark) (c : Cursor) : Scanned (List Char) :=
  if c.peek != some '!' then
    .error (c.fault (if directive then "while scanning a tag directive" else "while scanning a tag")
      start "did not find expected '!'")
  else
    let (name, c) := c.next.span isNameChar
    if c.peek == some '!' then .ok ('!' :: (name ++ ['!']), c.next)
    else if directive && !name.isEmpty then
      .error (c.fault "while parsing a tag directive" start "did not find expected '!'")
    else .ok ('!' :: name, c)

/-! ### Tags -/

/-- Whether a text is a handle with both its exclamation marks. -/
def isFullHandle (handle : List Char) : Bool :=
  decide (2 ≤ handle.length) && handle.getLast? == some '!'

/-- Reads the handle and the rest of a tag. -/
def scanTagParts (start : Mark) (c : Cursor) : Scanned (List Char × List Char) :=
  match c.rest with
  | '!' :: '<' :: _ =>
    match scanTagText isUriChar false start [] (c.skip 2) with
    | .error f => .error f
    | .ok (text, c) =>
      if c.peek == some '>' then .ok (([], text), c.next)
      else .error (c.fault "while scanning a tag" start "did not find the expected '>'")
  | _ =>
    match scanHandle false start c with
    | .error f => .error f
    | .ok (handle, c) =>
      if isFullHandle handle then
        (scanTagText isTagChar false start [] c).map fun (text, c) => ((handle, text), c)
      else
        (scanTagText isTagChar false start handle c).map fun (text, c) =>
          (if text.isEmpty then ([], ['!']) else (['!'], text), c)

/-- Reads a tag. -/
def scanTag (inFlow : Bool) (c : Cursor) : Scanned Token :=
  let start := c.mark
  match scanTagParts start c with
  | .error f => .error f
  | .ok ((handle, text), c) =>
    if endsWord c.rest || (inFlow && c.peek == some ',') then
      .ok (tokenAt start (.tag (String.ofList handle) (String.ofList text)) c)
    else
      .error (c.fault "while scanning a tag" start "did not find expected whitespace or line break")

/-! ### Directives -/

/-- Reads a number of a version. -/
def scanVersionNumber (start : Mark) (c : Cursor) : Scanned Nat :=
  let context := "while scanning a %YAML directive"
  let (digits, after) := c.span Char.isDigit
  if 9 < digits.length then
    .error ((c.skip 9).fault context start "found extremely long version number")
  else if digits.isEmpty then
    .error (c.fault context start "did not find expected version number")
  else .ok (digits.foldl (fun n d => 10 * n + (d.toNat - 48)) 0, after)

/-- Reads the two numbers of a version directive. -/
def scanVersion (start : Mark) (c : Cursor) : Scanned TokenKind :=
  match scanVersionNumber start (c.drop isSpace) with
  | .error f => .error f
  | .ok (major, c) =>
    if c.peek == some '.' then
      (scanVersionNumber start c.next).map fun (minor, c) => (.version major minor, c)
    else
      .error (c.fault "while scanning a %YAML directive" start
        "did not find expected digit or '.' character")

/-- Reads the handle and the tag of a tag directive. -/
def scanTagDirective (start : Mark) (c : Cursor) : Scanned TokenKind :=
  let context := "while scanning a %TAG directive"
  match scanHandle true start (c.drop isSpace) with
  | .error f => .error f
  | .ok (handle, c) =>
    if !c.rest.head?.any isSpace then
      .error (c.fault context start "did not find expected whitespace")
    else
      match scanTagText isUriChar true start [] (c.drop isSpace) with
      | .error f => .error f
      | .ok (text, c) =>
        if endsWord c.rest then
          .ok (.tagDirective (String.ofList handle) (String.ofList text), c)
        else .error (c.fault context start "did not find expected whitespace or line break")

/-- Reads the name of a directive. -/
def scanDirectiveName (start : Mark) (c : Cursor) : Scanned (List Char) :=
  let context := "while scanning a directive"
  let (name, c) := c.span isNameChar
  if name.isEmpty then .error (c.fault context start "could not find expected directive name")
  else if !endsWord c.rest then
    .error (c.fault context start "found unexpected non-alphabetical character")
  else .ok (name, c)

/-- Reads a directive, up to the end of its line. -/
def scanDirective (c : Cursor) : Scanned Token :=
  let context := "while scanning a directive"
  let start := c.mark
  match scanDirectiveName start c.next with
  | .error f => .error f
  | .ok (name, c) =>
    let body : Scanned TokenKind :=
      if name = "YAML".toList then scanVersion start c
      else if name = "TAG".toList then scanTagDirective start c
      else .error (c.fault context start "found unknown directive name")
    match body with
    | .error f => .error f
    | .ok (kind, c) =>
      let (token, c) := tokenAt start kind c
      let c := c.dropLineRest
      if endsLine c.rest then .ok (token, c.next)
      else .error (c.fault context start "did not find expected comment or line break")

end TwinTypes.Yaml
