import TwinTypes.Yaml.Scalar

/-!
# Cutting a text into tokens

`scan` gives the tokens of a text. Two things make it more than a loop over words. Block collections
are told by indentation, so the scanner keeps the columns of those that are open. And what turns out
to be a key has no sign before it: whether a scalar or a collection is one shows only at the colon
that follows, which must come on the same line. So the scanner remembers, for each flow collection
that is open, the last place where a key may have begun, and puts the tokens that begin a key there
once it meets the colon.

A text with a fault still has tokens before it, and a reader that fails on those never gets to see
the fault. A token that may yet have to be preceded by the beginning of a key cannot be given out,
so the tokens before a fault are those before the first place where a key may have begun.
-/

namespace TwinTypes.Yaml

/-- A place where a key may have begun. -/
structure KeyPlace where
  /-- The number of the token that would be the key. -/
  number : Nat
  /-- Where it begins. -/
  mark : Mark
  /-- Whether nothing but a key can stand there. -/
  required : Bool
  deriving Repr, Inhabited

/-- The state of the scanner. -/
structure Scanner where
  /-- What is to be read. -/
  cursor : Cursor
  /-- The tokens so far. -/
  tokens : Array Token
  /-- The column of the innermost block collection, `-1` outside of all. -/
  indent : Int
  /-- The columns of those around it. -/
  outer : List Int
  /-- Whether a key may begin here. -/
  keyAllowed : Bool
  /-- Where a key may have begun, in the innermost flow collection or outside of all. -/
  key : Option KeyPlace
  /-- Where a key may have begun in each flow collection around it. -/
  outerKeys : List (Option KeyPlace)
  deriving Inhabited

namespace Scanner

/-- Whether the place is within a flow collection. -/
def inFlow (s : Scanner) : Bool :=
  !s.outerKeys.isEmpty

/-- The place. -/
def mark (s : Scanner) : Mark :=
  s.cursor.mark

/-- A fault that shows here. -/
def fault {α : Type} (s : Scanner) (problem : String) : Except Fault α :=
  .error ⟨problem, s.mark, none⟩

/-- The fault of a key that is not followed by a colon. -/
def keyFault (s : Scanner) (k : KeyPlace) : Fault :=
  s.cursor.fault "while scanning a simple key" k.mark "could not find expected ':'"

/-- The state with one token more. -/
def push (s : Scanner) (kind : TokenKind) (start stop : Mark) : Scanner :=
  { s with tokens := s.tokens.push ⟨kind, start, stop⟩ }

/-- The state after a token that the cursor has been moved past. -/
def take (s : Scanner) (found : Token × Cursor) : Scanner :=
  { s with tokens := s.tokens.push found.1, cursor := found.2 }

/-- The state past so many characters, which are a token. -/
def advance (s : Scanner) (kind : TokenKind) (count : Nat) : Scanner :=
  let after := s.cursor.skip count
  { s with tokens := s.tokens.push ⟨kind, s.mark, after.mark⟩, cursor := after }

/-! ### Places of keys -/

/-- Whether it is too late for a colon to make this place a key: the line has ended, or the key
would be too long. -/
def isStale (s : Scanner) (k : KeyPlace) : Bool :=
  decide (k.mark.line < s.mark.line) || decide (k.mark.index + 1024 < s.mark.index)

/-- Forgets a place that is no key any more. -/
def refresh (s : Scanner) (key : Option KeyPlace) : Except Fault (Option KeyPlace) :=
  match key with
  | some k =>
    if s.isStale k then (if k.required then .error (s.keyFault k) else .ok none) else .ok key
  | none => .ok none

/-- Forgets the places that are no keys any more; the outermost one complains first. -/
def dropStale (s : Scanner) : Except Fault Scanner := do
  let outerKeys ← s.outerKeys.reverse.mapM s.refresh
  let key ← s.refresh s.key
  pure { s with key := key, outerKeys := outerKeys.reverse }

/-- Forgets the place where a key may have begun. -/
def dropKey (s : Scanner) : Except Fault Scanner :=
  match s.key with
  | some k => if k.required then .error (s.keyFault k) else .ok { s with key := none }
  | none => .ok s

/-- Remembers that a key may begin here. -/
def saveKey (s : Scanner) : Except Fault Scanner :=
  if s.keyAllowed then do
    let required := !s.inFlow && decide (s.indent = (s.mark.column : Int))
    let k : KeyPlace := ⟨s.tokens.size, s.mark, required⟩
    let s ← s.dropKey
    pure { s with key := some k }
  else .ok s

/-! ### Indentation -/

/-- Opens a block collection at a column, if the column is further in than the innermost one. Its
token is put before the token of the given number. -/
def openBlock (s : Scanner) (column : Nat) (number : Nat) (kind : TokenKind) (mark : Mark) :
    Scanner :=
  if !s.inFlow && decide (s.indent < (column : Int)) then
    { s with
      indent := column
      outer := s.indent :: s.outer
      tokens := s.tokens.insertIdxIfInBounds number ⟨kind, mark, mark⟩ }
  else s

/-- Closes the block collections that are further in than a column. -/
def closeBlocks (column : Int) : List Int → Scanner → Scanner
  | [], s => s
  | indent :: outer, s =>
    if column < s.indent then
      let s := s.push .blockEnd s.mark s.mark
      closeBlocks column outer { s with indent := indent, outer := outer }
    else s

/-- Closes the block collections that are further in than a column, unless a flow collection is
open. -/
def unindent (s : Scanner) (column : Int) : Scanner :=
  if s.inFlow then s else closeBlocks column s.outer s

/-! ### Tokens -/

/-- The state before anything has been read. -/
def start (text : List Char) : Scanner where
  cursor := ⟨text, .origin⟩
  tokens := #[⟨.streamStart, .origin, .origin⟩]
  indent := -1
  outer := []
  keyAllowed := true
  key := none
  outerKeys := []

/-- Reads a marker before or after a document, or the end of the text. -/
def leaveDocument (s : Scanner) : Except Fault Scanner := do
  let s ← (s.unindent (-1)).dropKey
  pure { s with keyAllowed := false }

/-- Reads the end of the text. -/
def fetchEnd (s : Scanner) : Except Fault Scanner := do
  let s := { s with cursor := ⟨s.cursor.rest, s.mark.closed⟩ }
  let s ← s.leaveDocument
  pure (s.push .streamEnd s.mark s.mark)

/-- Reads a directive. -/
def fetchDirective (s : Scanner) : Except Fault Scanner := do
  let s ← s.leaveDocument
  pure (s.take (← scanDirective s.cursor))

/-- Reads a marker before or after a document. -/
def fetchMarker (s : Scanner) (kind : TokenKind) : Except Fault Scanner := do
  let s ← s.leaveDocument
  pure (s.advance kind 3)

/-- Reads what opens a flow collection. -/
def fetchFlowStart (s : Scanner) (kind : TokenKind) : Except Fault Scanner := do
  let s ← s.saveKey
  let s := { s with key := none, outerKeys := s.key :: s.outerKeys, keyAllowed := true }
  pure (s.advance kind 1)

/-- Reads what closes a flow collection. -/
def fetchFlowEnd (s : Scanner) (kind : TokenKind) : Except Fault Scanner := do
  let s ← s.dropKey
  let s := match s.outerKeys with
    | key :: outerKeys => { s with key := key, outerKeys := outerKeys }
    | [] => s
  pure ({ s with keyAllowed := false }.advance kind 1)

/-- Reads the comma between items. -/
def fetchFlowEntry (s : Scanner) : Except Fault Scanner := do
  let s ← s.dropKey
  pure ({ s with keyAllowed := true }.advance .flowEntry 1)

/-- Reads the dash before an item. -/
def fetchBlockEntry (s : Scanner) : Except Fault Scanner := do
  if !s.inFlow && !s.keyAllowed then
    s.fault "block sequence entries are not allowed in this context"
  else
    let s ← (s.openBlock s.mark.column s.tokens.size .blockSequenceStart s.mark).dropKey
    pure ({ s with keyAllowed := true }.advance .blockEntry 1)

/-- Reads the question mark before a key. -/
def fetchKey (s : Scanner) : Except Fault Scanner := do
  if !s.inFlow && !s.keyAllowed then s.fault "mapping keys are not allowed in this context"
  else
    let s ← (s.openBlock s.mark.column s.tokens.size .blockMappingStart s.mark).dropKey
    pure ({ s with keyAllowed := !s.inFlow }.advance .key 1)

/-- Reads the colon before a value. What a key may have begun with now has begun with one. -/
def fetchValue (s : Scanner) : Except Fault Scanner :=
  match s.key with
  | some k =>
    let s := { s with tokens := s.tokens.insertIdxIfInBounds k.number ⟨.key, k.mark, k.mark⟩ }
    let s := s.openBlock k.mark.column k.number .blockMappingStart k.mark
    .ok ({ s with key := none, keyAllowed := false }.advance .value 1)
  | none =>
    if !s.inFlow && !s.keyAllowed then s.fault "mapping values are not allowed in this context"
    else
      let s := s.openBlock s.mark.column s.tokens.size .blockMappingStart s.mark
      .ok ({ s with keyAllowed := !s.inFlow }.advance .value 1)

/-- Reads a token that may be the beginning of a key, given how it is scanned. -/
def fetchNode (s : Scanner) (scan : Cursor → Scanned Token) : Except Fault Scanner := do
  let s ← s.saveKey
  pure ({ s with keyAllowed := false }.take (← scan s.cursor))

/-- Reads a scalar in lines of its own. -/
def fetchBlockScalar (s : Scanner) (literal : Bool) : Except Fault Scanner := do
  let s ← s.dropKey
  pure ({ s with keyAllowed := true }.take (← scanBlockScalar literal s.indent s.cursor))

/-- Reads a scalar without quotes. -/
def fetchPlain (s : Scanner) : Except Fault Scanner := do
  let s ← s.saveKey
  let ((token, broken), after) ← scanPlainScalar s.inFlow s.indent s.cursor
  pure ({ s with keyAllowed := broken }.take (token, after))

/-- Whether a scalar without quotes may begin here. -/
def beginsPlain (inFlow : Bool) (x : Char) (rest : List Char) : Bool :=
  (!isGap x && !"-?:,[]\x7b\x7d#&*!|>'\"%@\x60".toList.contains x)
    || (x == '-' && !rest.head?.any isSpace)
    || (!inFlow && (x == '?' || x == ':') && !endsWord rest)

/-- Passes over blanks, comments and line breaks, at most `fuel` lines of them. Where a key may
begin, a tab is no blank. -/
def dropGaps : Nat → Scanner → Scanner
  | 0, s => s
  | fuel + 1, s =>
    let c := s.cursor
    let c := if c.mark.column = 0 ∧ c.peek = some '\ufeff' then c.next else c
    let c := c.drop fun x => x == ' ' || ((s.inFlow || !s.keyAllowed) && x == '\t')
    let c := if c.peek = some '#' then c.drop fun x => !Mark.isBreak x else c
    if c.rest.head?.any Mark.isBreak then
      dropGaps fuel { s with cursor := c.next, keyAllowed := s.keyAllowed || !s.inFlow }
    else { s with cursor := c }

/-- Reads the next token, which begins with the given character. -/
def fetchAt (s : Scanner) (x : Char) (rest : List Char) : Except Fault Scanner :=
  let atMarker := s.mark.column == 0 && isDocumentMarker s.cursor.rest
  if s.mark.column == 0 && x == '%' then s.fetchDirective
  else if atMarker then s.fetchMarker (if x == '-' then .documentStart else .documentEnd)
  else if x == '[' then s.fetchFlowStart .flowSequenceStart
  else if x == '\x7b' then s.fetchFlowStart .flowMappingStart
  else if x == ']' then s.fetchFlowEnd .flowSequenceEnd
  else if x == '\x7d' then s.fetchFlowEnd .flowMappingEnd
  else if x == ',' then s.fetchFlowEntry
  else if x == '-' && endsWord rest then s.fetchBlockEntry
  else if x == '?' && (s.inFlow || endsWord rest) then s.fetchKey
  else if x == ':' && (s.inFlow || endsWord rest) then s.fetchValue
  else if x == '*' then s.fetchNode (scanAnchor "while scanning an alias" .alias)
  else if x == '&' then s.fetchNode (scanAnchor "while scanning an anchor" .anchor)
  else if x == '!' then s.fetchNode (scanTag s.inFlow)
  else if x == '|' && !s.inFlow then s.fetchBlockScalar true
  else if x == '>' && !s.inFlow then s.fetchBlockScalar false
  else if x == '\'' then s.fetchNode (scanQuotedScalar true)
  else if x == '"' then s.fetchNode (scanQuotedScalar false)
  else if beginsPlain s.inFlow x rest then s.fetchPlain
  else
    .error (s.cursor.fault "while scanning for the next token" s.mark
      "found character that cannot start any token")

/-- Reads the next token. Gives the state, and whether the text has ended. -/
def step (s : Scanner) : Except Fault (Scanner × Bool) := do
  let s ← (s.dropGaps (s.cursor.rest.length + 1)).dropStale
  let s := s.unindent s.mark.column
  match s.cursor.rest with
  | [] => do pure ((← s.fetchEnd), true)
  | x :: rest => do pure ((← (← s.fetchAt x rest).dropStale), false)

/-- The tokens before the first place where a key may have begun. -/
def settled (s : Scanner) : List Token :=
  let places := (s.key :: s.outerKeys).filterMap (Option.map KeyPlace.number)
  s.tokens.toList.take (places.foldl min s.tokens.size)

/-- Reads tokens to the end of the text or to a fault, at most `fuel` times one or more. -/
def run : Nat → Scanner → List Token × Option Fault
  | 0, s => (s.tokens.toList, none)
  | fuel + 1, s =>
    match s.step with
    | .error f => (s.settled, some f)
    | .ok (s, ended) => if ended then (s.tokens.toList, none) else run fuel s

end Scanner

/-- Every way to end a line but the two separators of Unicode becomes a line feed. -/
def plainBreaks : List Char → List Char
  | [] => []
  | '\r' :: '\n' :: rest => '\n' :: plainBreaks rest
  | c :: rest => (if c = '\r' ∨ c = '\u0085' then '\n' else c) :: plainBreaks rest

/-- **The tokens of a text**, up to the first fault if it has one. Each step reads a character, so
the length of the text bounds the steps. -/
def scan (text : List Char) : List Token × Option Fault :=
  Scanner.run (text.length + 1) (.start (plainBreaks text))

end TwinTypes.Yaml
