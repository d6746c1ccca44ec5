import TwinTypes.Yaml.Words

/-!
# Scalars

Scalars between quotes, without quotes, and in lines of their own. In the first two kinds a line
break counts as one space and the blanks around it do not count; `Folding` keeps what stands between
two words until it is known what follows. In the third kind the lines are kept, or joined likewise,
less their common indentation.

Every loop reads at least one character a round, so the length of the text bounds its rounds.
-/

namespace TwinTypes.Yaml

/-! ### Joining lines -/

/-- The text of a scalar so far, and the blanks and breaks read since its last character. -/
structure Folding where
  /-- The characters so far, the last one first. -/
  text : List Char
  /-- The blanks since, on the same line, the last one first. -/
  blanks : List Char
  /-- Whether the line has ended since. -/
  broken : Bool
  /-- The first line break, if one is to be joined over. -/
  break? : Option Char
  /-- The further line breaks, the last one first. -/
  more : List Char
  deriving Repr, Inhabited

namespace Folding

/-- Nothing has been read. -/
def start : Folding :=
  ⟨[], [], false, none, []⟩

/-- Reads a blank or a line break. -/
def gap (f : Folding) (c : Char) : Folding :=
  if Mark.isBreak c then
    if f.broken then { f with more := c :: f.more }
    else { f with blanks := [], broken := true, break? := some c }
  else if f.broken then f
  else { f with blanks := c :: f.blanks }

/-- What the blanks and breaks since the last character come to, the last one first. -/
def joint (f : Folding) : List Char :=
  if f.broken then
    match f.break? with
    | some '\n' => if f.more.isEmpty then [' '] else f.more
    | some c => f.more ++ [c]
    | none => f.more
  else f.blanks

/-- Takes the blanks and breaks since the last character into the text. -/
def join (f : Folding) : Folding :=
  ⟨f.joint ++ f.text, [], false, none, []⟩

/-- Reads a character that is no blank and no break. -/
def push (f : Folding) (c : Char) : Folding :=
  let joined := f.join
  { joined with text := c :: joined.text }

/-- Passes over a line break that counts for nothing. -/
def splice (f : Folding) : Folding :=
  { f.join with broken := true }

end Folding

/-! ### Scalars between quotes -/

/-- The character that a one-letter escape stands for. -/
def simpleEscape (c : Char) : Option Char :=
  match c with
  | '0' => some '\x00'
  | 'a' => some '\x07'
  | 'b' => some '\x08'
  | 't' | '\t' => some '\t'
  | 'n' => some '\n'
  | 'v' => some '\x0b'
  | 'f' => some '\x0c'
  | 'r' => some '\r'
  | 'e' => some '\x1b'
  | ' ' | '"' | '/' | '\\' => some c
  | 'N' => some '\u0085'
  | '_' => some '\u00a0'
  | 'L' => some '\u2028'
  | 'P' => some '\u2029'
  | _ => none

/-- How many digits follow the letter of a numeric escape. -/
def escapeDigits (c : Char) : Option Nat :=
  match c with
  | 'x' => some 2
  | 'u' => some 4
  | 'U' => some 8
  | _ => none

/-- The number that so many hexadecimal digits spell after those read before. -/
def hexNumber (before : Nat) : Nat → List Char → Option Nat
  | 0, _ => some before
  | n + 1, c :: rest => (hexValue c).bind fun digit => hexNumber (before * 16 + digit) n rest
  | _ + 1, [] => none

/-- Reads an escape, starting at its backslash. -/
def scanQuoteEscape (start : Mark) (c : Cursor) : Scanned Char :=
  let context := "while parsing a quoted scalar"
  let letter := c.rest.tail.head?
  match letter.bind simpleEscape, letter.bind escapeDigits with
  | some x, _ => .ok (x, c.skip 2)
  | none, some n =>
    let c := c.skip 2
    match hexNumber 0 n c.rest with
    | none => .error (c.fault context start "did not find expected hexadecimal number")
    | some code =>
      if Nat.isValidChar code then .ok (Char.ofNat code, c.skip n)
      else .error (c.fault context start "found invalid Unicode character escape code")
  | none, none => .error (c.fault context start "found unknown escape character")

/-- Reads a scalar between quotes from after the opening one. -/
def scanQuoted (single : Bool) (start : Mark) : Nat → Folding → Cursor → Scanned (List Char)
  | 0, f, c => .ok (f.join.text.reverse, c)
  | fuel + 1, f, c =>
    let context := "while scanning a quoted scalar"
    if c.mark.column == 0 && isDocumentMarker c.rest then
      .error (c.fault context start "found unexpected document indicator")
    else
      match c.rest with
      | [] => .error (c.fault context start "found unexpected end of stream")
      | x :: rest =>
        if isGap x then scanQuoted single start fuel (f.gap x) c.next
        else if single then
          if x == '\'' then
            if rest.head? == some '\'' then scanQuoted single start fuel (f.push '\'') (c.skip 2)
            else .ok (f.join.text.reverse, c.next)
          else scanQuoted single start fuel (f.push x) c.next
        else if x == '"' then .ok (f.join.text.reverse, c.next)
        else if x == '\\' then
          if rest.head?.any Mark.isBreak then scanQuoted single start fuel f.splice (c.skip 2)
          else
            match scanQuoteEscape start c with
            | .error fault => .error fault
            | .ok (y, c) => scanQuoted single start fuel (f.push y) c
        else scanQuoted single start fuel (f.push x) c.next

/-- Reads a scalar between quotes, starting at the opening one. -/
def scanQuotedScalar (single : Bool) (c : Cursor) : Scanned Token :=
  match scanQuoted single c.mark c.rest.length .start c.next with
  | .error f => .error f
  | .ok (text, after) =>
    .ok (tokenAt c.mark (.scalar (if single then .single else .double) (String.ofList text)) after)

/-! ### Scalars without quotes -/

/-- A character that has a meaning of its own among the items of a flow collection. -/
def isFlowSign (c : Char) : Bool :=
  ",[]\x7b\x7d".toList.contains c

/-- Whether a scalar without quotes ends before this character. -/
def endsPlain (inFlow : Bool) (x : Char) (rest : List Char) : Bool :=
  (x == ':' && endsWord rest) || (inFlow && isFlowSign x)

/-- Whether a scalar without quotes ends before a word that begins here. -/
def endsPlainWord (inFlow : Bool) (indent : Int) (first : Bool) (c : Cursor) : Bool :=
  (!first && !inFlow && decide ((c.mark.column : Int) < indent))
    || (c.mark.column == 0 && isDocumentMarker c.rest) || c.peek == some '#'

/-- Reads a scalar without quotes; `fresh` says that no character of the current word has been read.
Gives its text, and whether its last line has ended. -/
def scanPlain (inFlow : Bool) (indent : Int) (start : Mark) :
    Nat → Bool → Folding → Cursor → Scanned (List Char × Bool)
  | 0, _, f, c => .ok ((f.text.reverse, f.broken), c)
  | fuel + 1, fresh, f, c =>
    let context := "while scanning a plain scalar"
    match c.rest with
    | [] => .ok ((f.text.reverse, f.broken), c)
    | x :: rest =>
      if isGap x then
        if f.broken && decide ((c.mark.column : Int) < indent) && x == '\t' then
          .error (c.fault context start "found a tab character that violates indentation")
        else scanPlain inFlow indent start fuel true (f.gap x) c.next
      else if fresh && endsPlainWord inFlow indent f.text.isEmpty c then
        .ok ((f.text.reverse, f.broken), c)
      else if inFlow && x == ':' && rest.head?.any (fun y => isFlowSign y || y == '?') then
        .error (c.fault context start "found unexpected ':'")
      else if endsPlain inFlow x rest then .ok ((f.text.reverse, f.broken), c)
      else scanPlain inFlow indent start fuel false (f.push x) c.next

/-- Reads a scalar without quotes in a collection of this indentation. Also gives whether a key may
follow, which is when the scalar ended with its line. -/
def scanPlainScalar (inFlow : Bool) (indent : Int) (c : Cursor) : Scanned (Token × Bool) :=
  match scanPlain inFlow (indent + 1) c.mark (c.rest.length + 1) true .start c with
  | .error f => .error f
  | .ok ((text, broken), after) =>
    .ok ((⟨.scalar .plain (String.ofList text), c.mark, after.mark⟩, broken), after)

/-! ### Scalars in lines of their own -/

/-- What becomes of the line breaks at the end. -/
inductive Chomping where
  /-- The last one is kept. -/
  | clip
  /-- None is kept. -/
  | strip
  /-- All are kept. -/
  | keep
  deriving DecidableEq, Repr

/-- Reads the sign that says what becomes of the line breaks at the end. -/
def scanChomping (c : Cursor) : Option (Chomping × Cursor) :=
  match c.peek with
  | some '+' => some (.keep, c.next)
  | some '-' => some (.strip, c.next)
  | _ => none

/-- Reads the digit that says how far the lines are indented, zero if there is none. -/
def scanIncrement (start : Mark) (c : Cursor) : Scanned Nat :=
  match c.peek with
  | some d =>
    if d == '0' then
      .error (c.fault "while scanning a block scalar" start
        "found an indentation indicator equal to 0")
    else if d.isDigit then .ok (d.toNat - 48, c.next)
    else .ok (0, c)
  | none => .ok (0, c)

/-- Reads the signs after the one that announces the scalar, in either order. -/
def scanBlockHeader (start : Mark) (c : Cursor) : Scanned (Chomping × Nat) :=
  match scanChomping c with
  | some (chomping, c) => (scanIncrement start c).map fun (n, c) => ((chomping, n), c)
  | none =>
    match scanIncrement start c with
    | .error f => .error f
    | .ok (n, c) =>
      match (if n = 0 then none else scanChomping c) with
      | some (chomping, c) => .ok ((chomping, n), c)
      | none => .ok ((.clip, n), c)

/-- Reads indentation and empty lines. `indent` is how far the lines are indented, zero while that
is not known; gives the breaks, the last one first, and the furthest indentation seen. -/
def scanBlockBreaks (start : Mark) (indent : Nat) :
    Nat → List Char → Nat → Cursor → Scanned (List Char × Nat)
  | 0, breaks, furthest, c => .ok ((breaks, furthest), c)
  | fuel + 1, breaks, furthest, c =>
    let spaces := (c.rest.takeWhile (· == ' ')).length
    let c := c.skip (if indent = 0 then spaces else min spaces (indent - c.mark.column))
    let furthest := max furthest c.mark.column
    if (indent = 0 ∨ c.mark.column < indent) ∧ c.peek = some '\t' then
      .error (c.fault "while scanning a block scalar" start
        "found a tab character where an indentation space is expected")
    else
      match c.rest with
      | x :: _ =>
        if Mark.isBreak x then scanBlockBreaks start indent fuel (x :: breaks) furthest c.next
        else .ok ((breaks, furthest), c)
      | [] => .ok ((breaks, furthest), c)

/-- The lines of a block scalar so far. -/
structure BlockText where
  /-- The characters so far, the last one first. -/
  text : List Char
  /-- The line break after the last line. -/
  leading : List Char
  /-- The breaks of the empty lines since, the last one first. -/
  trailing : List Char
  /-- Whether the last line began with a blank. -/
  blankLine : Bool
  deriving Repr, Inhabited

/-- The text with the next line put after it. -/
def BlockText.addLine (b : BlockText) (literal : Bool) (line : List Char) : BlockText :=
  let blank := line.head?.any isSpace
  let folded := !literal && b.leading.head? == some '\n' && !b.blankLine && !blank
  let between := b.trailing ++
    (if folded then (if b.trailing.isEmpty then [' '] else []) else b.leading)
  ⟨line.reverse ++ between ++ b.text, [], [], blank⟩

/-- The whole text, once no line is left. -/
def BlockText.finish (b : BlockText) (chomping : Chomping) : List Char :=
  let ending := match chomping with
    | .strip => []
    | .clip => b.leading
    | .keep => b.trailing ++ b.leading
  (ending ++ b.text).reverse

/-- Reads the lines of a block scalar. -/
def scanBlockLines (literal : Bool) (start : Mark) (indent : Nat) :
    Nat → BlockText → Cursor → Scanned BlockText
  | 0, b, c => .ok (b, c)
  | fuel + 1, b, c =>
    if c.mark.column = indent ∧ !c.rest.isEmpty then
      let (line, after) := c.span fun x => !Mark.isBreak x
      let b := { b.addLine literal line with leading := after.peek.toList }
      match scanBlockBreaks start indent (after.rest.length + 1) [] 0 after.next with
      | .error f => .error f
      | .ok ((breaks, _), c) =>
        scanBlockLines literal start indent fuel { b with trailing := breaks } c
    else .ok (b, c)

/-- Reads a block scalar in a collection of this indentation. -/
def scanBlockScalar (literal : Bool) (parent : Int) (c : Cursor) : Scanned Token :=
  let context := "while scanning a block scalar"
  let start := c.mark
  match scanBlockHeader start c.next with
  | .error f => .error f
  | .ok ((chomping, increment), c) =>
    let c := c.dropLineRest
    if !endsLine c.rest then
      .error (c.fault context start "did not find expected comment or line break")
    else
      let c := c.next
      let given := if increment = 0 then 0 else (max parent 0).toNat + increment
      match scanBlockBreaks start given (c.rest.length + 1) [] 0 c with
      | .error f => .error f
      | .ok ((breaks, furthest), c) =>
        let indent := if given = 0 then max furthest (max (parent + 1).toNat 1) else given
        match scanBlockLines literal start indent (c.rest.length + 1) ⟨[], [], breaks, false⟩ c with
        | .error f => .error f
        | .ok (b, after) =>
          .ok (tokenAt start (.scalar .block (String.ofList (b.finish chomping))) after)

end TwinTypes.Yaml
