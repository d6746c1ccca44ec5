import TwinTypes.Yaml.Event
import TwinTypes.Yaml.Scanner

/-!
# From tokens to events

A machine that gives one event a step. Its stack holds what is to be gone on with once the node at
hand is complete, and its marks the beginnings of the open collections, for the messages. Text that
is left out – a key without a value, an item that is empty – comes out as an empty scalar.
-/

namespace TwinTypes.Yaml

/-- What a step has to look for. -/
inductive Expectation where
  /-- A document that may begin without a marker. -/
  | firstDocument
  /-- A document that begins with a marker, or the end of the text. -/
  | document
  /-- What follows the marker before a document. -/
  | content
  /-- The end of a document. -/
  | documentEnd
  /-- The node of a document. -/
  | node
  /-- An item of a block sequence; the first one comes after the opening token. -/
  | blockItem (first : Bool)
  /-- An item of a block sequence that is not further in than the mapping around it. -/
  | flatItem
  /-- A key of a block mapping; the first one comes after the opening token. -/
  | blockKey (first : Bool)
  /-- A value of a block mapping. -/
  | blockValue
  /-- An item of a flow sequence; the first one comes after the opening token. -/
  | flowItem (first : Bool)
  /-- The key of a mapping that is an item of a flow sequence. -/
  | pairKey
  /-- The value of such a mapping. -/
  | pairValue
  /-- The end of such a mapping. -/
  | pairEnd
  /-- A key of a flow mapping; the first one comes after the opening token. -/
  | flowKey (first : Bool)
  /-- A value of a flow mapping. -/
  | flowValue
  /-- The value of a key of a flow mapping that has none. -/
  | noValue
  /-- Nothing more. -/
  | finished
  deriving DecidableEq, Repr, Inhabited

/-- The state of the machine. -/
structure Grammar where
  /-- The tokens to be read. -/
  tokens : List Token
  /-- What stands in the place of the token after the last. -/
  fault : Fault
  /-- What the next step looks for. -/
  now : Expectation
  /-- What is looked for afterwards, the soonest first. -/
  later : List Expectation
  /-- The beginnings of the open collections, the innermost first. -/
  marks : List Mark
  /-- What the handles of tags stand for. -/
  handles : List (String × String)
  deriving Repr, Inhabited

namespace Grammar

/-- What a step gives. -/
abbrev Step : Type :=
  Except Fault (Event × Grammar)

/-- The next token. -/
def peek (g : Grammar) : Except Fault Token :=
  match g.tokens with
  | t :: _ => .ok t
  | [] => .error g.fault

/-- Past the next token. -/
def skip (g : Grammar) : Grammar :=
  { g with tokens := g.tokens.tail }

/-- Goes on with what is to be looked for afterwards. -/
def resume (g : Grammar) : Grammar :=
  match g.later with
  | e :: later => { g with now := e, later := later }
  | [] => { g with now := .finished }

/-- Looks for something else before going on. -/
def await (g : Grammar) (now next : Expectation) : Grammar :=
  { g with now := now, later := next :: g.later }

/-- Goes on with something. -/
def goto (g : Grammar) (e : Expectation) : Grammar :=
  { g with now := e }

/-- Remembers the beginning of a collection. -/
def enter (g : Grammar) (m : Mark) : Grammar :=
  { g with marks := m :: g.marks }

/-- Forgets the beginning of the innermost collection. -/
def leave (g : Grammar) : Grammar :=
  { g with marks := g.marks.tail }

/-- Gives an event. -/
def emit (g : Grammar) (kind : EventKind) (mark : Mark) : Step :=
  .ok (⟨kind, mark⟩, g)

/-- Gives a scalar that is left out. -/
def emitEmpty (g : Grammar) (mark : Mark) : Step :=
  g.emit (.scalar ⟨none, none⟩ .plain "") mark

/-- Complains about a token within the innermost collection. -/
def complain (g : Grammar) (what problem : String) (t : Token) : Step :=
  .error ⟨problem, t.start, some (what, g.marks.headD .origin)⟩

/-! ### Nodes -/

/-- The anchor and the tag before a node, as they are written, and where they begin. -/
structure Prefixes where
  /-- The anchor. -/
  anchor : Option String
  /-- The handle and the rest of the tag, and where it begins. -/
  tag : Option (String × String × Mark)
  /-- Where the first of the two begins, or else the node. -/
  start : Mark

/-- Reads the tag before a node. -/
def readTag (g : Grammar) : Except Fault (Option (String × String × Mark) × Grammar) := do
  let t ← g.peek
  match t.kind with
  | .tag handle rest => pure (some (handle, rest, t.start), g.skip)
  | _ => pure (none, g)

/-- Reads the anchor before a node. -/
def readAnchor (g : Grammar) : Except Fault (Option String × Grammar) := do
  let t ← g.peek
  match t.kind with
  | .anchor name => pure (some name, g.skip)
  | _ => pure (none, g)

/-- Reads the anchor and the tag before a node, in either order. -/
def readPrefixes (g : Grammar) : Except Fault (Prefixes × Grammar) := do
  let start := (← g.peek).start
  let (anchor, g) ← g.readAnchor
  let (tag, g) ← g.readTag
  if anchor.isNone && tag.isSome then
    let (anchor, g) ← g.readAnchor
    pure (⟨anchor, tag, start⟩, g)
  else pure (⟨anchor, tag, start⟩, g)

/-- The tag of a node, with its handle replaced. -/
def resolveTag (g : Grammar) (p : Prefixes) : Except Fault (Option String) :=
  match p.tag with
  | none => .ok none
  | some (handle, rest, mark) =>
    if handle.isEmpty then .ok (some rest)
    else
      match g.handles.find? fun h => h.1 == handle with
      | some (_, lead) => .ok (some (lead ++ rest))
      | none => .error ⟨"found undefined tag handle", mark, some ("while parsing a node", p.start)⟩

/-- Reads the node after its properties. -/
def parseBody (g : Grammar) (block flat : Bool) (p : Properties) (start : Mark) : Step := do
  let t ← g.peek
  match t.kind with
  | .scalar style text => g.resume.skip.emit (.scalar p style text) start
  | .flowSequenceStart => (g.goto (.flowItem true)).emit (.sequenceStart p) start
  | .flowMappingStart => (g.goto (.flowKey true)).emit (.mappingStart p) start
  | kind =>
    if flat && kind == .blockEntry then (g.goto .flatItem).emit (.sequenceStart p) start
    else if block && kind == .blockSequenceStart then
      (g.goto (.blockItem true)).emit (.sequenceStart p) start
    else if block && kind == .blockMappingStart then
      (g.goto (.blockKey true)).emit (.mappingStart p) start
    else if p.anchor.isSome || p.tag.isSome then g.resume.emit (.scalar p .plain "") start
    else
      .error ⟨"did not find expected node content", t.start,
        some (if block then "while parsing a block node" else "while parsing a flow node", start)⟩

/-- Reads a node. `block` says that a block collection may stand here, `flat` that a block sequence
may stand here that is not further in than the mapping around it. -/
def parseNode (g : Grammar) (block flat : Bool) : Step := do
  let t ← g.peek
  match t.kind with
  | .alias name => g.resume.skip.emit (.alias name) t.start
  | _ =>
    let (p, g) ← g.readPrefixes
    let tag ← g.resolveTag p
    g.parseBody block flat ⟨p.anchor, tag⟩ p.start

/-- Reads a node unless one of the given tokens is next; then it is left out. -/
def parseUnless (g : Grammar) (stops : List TokenKind) (block flat : Bool) (next : Expectation)
    (mark : Mark) : Step := do
  let t ← g.peek
  if stops.contains t.kind then (g.goto next).emitEmpty mark
  else (g.await .node next).parseNode block flat

/-! ### Documents -/

/-- What the handles of tags stand for unless a directive says otherwise. -/
def defaultHandles : List (String × String) :=
  [("!", "!"), ("!!", "tag:yaml.org,2002:")]

/-- Reads directives; `versioned` says that one gave the version already. -/
def readDirectives (fault : Fault) (versioned : Bool) (handles : List (String × String)) :
    List Token → Except Fault (List (String × String) × List Token)
  | [] => .error fault
  | t :: rest =>
    match t.kind with
    | .version major minor =>
      if versioned then .error ⟨"found duplicate %YAML directive", t.start, none⟩
      else if major ≠ 1 ∨ (minor ≠ 1 ∧ minor ≠ 2) then
        .error ⟨"found incompatible YAML document", t.start, none⟩
      else readDirectives fault true handles rest
    | .tagDirective handle lead =>
      if handles.any fun h => h.1 == handle then
        .error ⟨"found duplicate %TAG directive", t.start, none⟩
      else readDirectives fault versioned (handles ++ [(handle, lead)]) rest
    | _ => .ok (handles, t :: rest)

/-- Reads the beginning of a document without a marker. -/
def openBareDocument (g : Grammar) (mark : Mark) : Step :=
  ({ g with handles := defaultHandles }.await .node .documentEnd).emit .documentStart mark

/-- Reads the beginning of a document with a marker, or the end of the text. -/
def parseDocumentStart (g : Grammar) : Step := do
  let t ← g.peek
  if t.kind == .streamEnd then (g.goto .finished).skip.emit .streamEnd t.start
  else
    let (handles, tokens) ← readDirectives g.fault false [] g.tokens
    let g := { g with tokens := tokens, handles := handles ++ defaultHandles }
    let marker ← g.peek
    if marker.kind != .documentStart then
      .error ⟨"did not find expected <document start>", marker.start, none⟩
    else (g.await .content .documentEnd).skip.emit .documentStart t.start

/-- The tokens that show that a document begins with a marker, or that there is none. -/
def isDocumentSign : TokenKind → Bool
  | .version .. => true
  | .tagDirective .. => true
  | .documentStart => true
  | .streamEnd => true
  | _ => false

/-- Without the markers after documents that come next. -/
def dropDocumentEnds (g : Grammar) : Grammar :=
  { g with tokens := g.tokens.dropWhile fun t => t.kind == .documentEnd }

/-- Reads the first document. -/
def parseFirstDocument (g : Grammar) : Step := do
  let t ← g.peek
  if isDocumentSign t.kind then g.parseDocumentStart else g.openBareDocument t.start

/-- Reads what follows the marker before a document. -/
def parseContent (g : Grammar) : Step := do
  let t ← g.peek
  if isDocumentSign t.kind || t.kind == .documentEnd then g.resume.emitEmpty t.start
  else g.parseNode true false

/-- Reads the end of a document. -/
def parseDocumentEnd (g : Grammar) : Step := do
  let t ← g.peek
  let g := if t.kind == .documentEnd then g.skip else g
  (g.goto .document).emit .documentEnd t.start

/-! ### Block collections -/

/-- Reads an item of a block sequence. -/
def parseBlockItem (g : Grammar) : Step := do
  let t ← g.peek
  match t.kind with
  | .blockEntry => g.skip.parseUnless [.blockEntry, .blockEnd] true false (.blockItem false) t.stop
  | .blockEnd => g.resume.leave.skip.emit .sequenceEnd t.start
  | _ => g.complain "while parsing a block collection" "did not find expected '-' indicator" t

/-- Reads an item of a block sequence that is not further in than the mapping around it. -/
def parseFlatItem (g : Grammar) : Step := do
  let t ← g.peek
  match t.kind with
  | .blockEntry =>
    g.skip.parseUnless [.blockEntry, .key, .value, .blockEnd] true false .flatItem t.stop
  | _ => g.resume.emit .sequenceEnd t.start

/-- Reads a key of a block mapping. -/
def parseBlockKey (g : Grammar) : Step := do
  let t ← g.peek
  match t.kind with
  | .key => g.skip.parseUnless [.key, .value, .blockEnd] true true .blockValue t.stop
  | .blockEnd => g.resume.leave.skip.emit .mappingEnd t.start
  | _ => g.complain "while parsing a block mapping" "did not find expected key" t

/-- Reads a value of a block mapping. -/
def parseBlockValue (g : Grammar) : Step := do
  let t ← g.peek
  match t.kind with
  | .value => g.skip.parseUnless [.key, .value, .blockEnd] true true (.blockKey false) t.stop
  | _ => (g.goto (.blockKey false)).emitEmpty t.start

/-! ### Flow collections -/

/-- Reads an item of a flow sequence, past the comma before it. -/
def parseFlowElement (g : Grammar) : Step := do
  let t ← g.peek
  match t.kind with
  | .key => (g.goto .pairKey).skip.emit (.mappingStart ⟨none, none⟩) t.start
  | .flowSequenceEnd => g.resume.leave.skip.emit .sequenceEnd t.start
  | _ => (g.await .node (.flowItem false)).parseNode false false

/-- Reads an item of a flow sequence that is not the first, or the end of the sequence. -/
def parseFlowItem (g : Grammar) : Step := do
  let t ← g.peek
  match t.kind with
  | .flowSequenceEnd => g.parseFlowElement
  | .flowEntry => g.skip.parseFlowElement
  | _ => g.complain "while parsing a flow sequence" "did not find expected ',' or ']'" t

/-- Reads the key of a mapping that is an item of a flow sequence. A token that shows that there is
none is passed over. -/
def parsePairKey (g : Grammar) : Step := do
  let t ← g.peek
  if [TokenKind.value, .flowEntry, .flowSequenceEnd].contains t.kind then
    (g.goto .pairValue).skip.emitEmpty t.stop
  else (g.await .node .pairValue).parseNode false false

/-- Reads the value of a mapping that is an item of a flow sequence. -/
def parsePairValue (g : Grammar) : Step := do
  let t ← g.peek
  match t.kind with
  | .value =>
    let g := g.skip
    let next ← g.peek
    g.parseUnless [.flowEntry, .flowSequenceEnd] false false .pairEnd next.start
  | _ => (g.goto .pairEnd).emitEmpty t.start

/-- Reads the end of a mapping that is an item of a flow sequence. -/
def parsePairEnd (g : Grammar) : Step := do
  let t ← g.peek
  (g.goto (.flowItem false)).emit .mappingEnd t.start

/-- Reads a key of a flow mapping, past the comma before it. -/
def parseFlowEntry (g : Grammar) : Step := do
  let t ← g.peek
  match t.kind with
  | .key =>
    let g := g.skip
    let next ← g.peek
    g.parseUnless [.value, .flowEntry, .flowMappingEnd] false false .flowValue next.start
  | .flowMappingEnd => g.resume.leave.skip.emit .mappingEnd t.start
  | _ => (g.await .node .noValue).parseNode false false

/-- Reads a key of a flow mapping that is not the first, or the end of the mapping. -/
def parseFlowKey (g : Grammar) : Step := do
  let t ← g.peek
  match t.kind with
  | .flowMappingEnd => g.parseFlowEntry
  | .flowEntry => g.skip.parseFlowEntry
  | _ => g.complain "while parsing a flow mapping" "did not find expected ',' or '\x7d'" t

/-- Reads a value of a flow mapping. -/
def parseFlowValue (g : Grammar) : Step := do
  let t ← g.peek
  match t.kind with
  | .value =>
    let g := g.skip
    let next ← g.peek
    g.parseUnless [.flowEntry, .flowMappingEnd] false false (.flowKey false) next.start
  | _ => (g.goto (.flowKey false)).emitEmpty t.start

/-- Goes on past the token that opens a collection. -/
def afterOpening (g : Grammar) (parse : Grammar → Step) : Step := do
  let t ← g.peek
  parse (g.enter t.start).skip

/-! ### The machine -/

/-- Gives the next event. -/
def step (g : Grammar) : Step :=
  match g.now with
  | .firstDocument => g.parseFirstDocument
  | .document => g.dropDocumentEnds.parseDocumentStart
  | .content => g.parseContent
  | .documentEnd => g.parseDocumentEnd
  | .node => g.parseNode true false
  | .blockItem first => if first then g.afterOpening parseBlockItem else g.parseBlockItem
  | .flatItem => g.parseFlatItem
  | .blockKey first => if first then g.afterOpening parseBlockKey else g.parseBlockKey
  | .blockValue => g.parseBlockValue
  | .flowItem first => if first then g.afterOpening parseFlowElement else g.parseFlowItem
  | .pairKey => g.parsePairKey
  | .pairValue => g.parsePairValue
  | .pairEnd => g.parsePairEnd
  | .flowKey first => if first then g.afterOpening parseFlowEntry else g.parseFlowKey
  | .flowValue => g.parseFlowValue
  | .noValue => do
    let t ← g.peek
    (g.goto (.flowKey false)).emitEmpty t.start
  | .finished => .error g.fault

/-- Gives at most `fuel` events, up to the end of the text or to a fault. -/
def run : Nat → Grammar → List Event × Option Fault
  | 0, _ => ([], none)
  | fuel + 1, g =>
    match g.step with
    | .error f => ([], some f)
    | .ok (e, g) =>
      if e.kind == .streamEnd then ([e], none)
      else
        let (events, fault) := run fuel g
        (e :: events, fault)

end Grammar

/-- **The events of a text**, up to the first fault if it has one. Between two tokens there are at
most three events that come of no token, which bounds the steps. -/
def events (text : List Char) : List Event × Option Fault :=
  let (tokens, fault) := scan text
  let fault := fault.getD ⟨"", .origin, none⟩
  Grammar.run (4 * tokens.length + 8) ⟨tokens.tail, fault, .firstDocument, [], [], []⟩

end TwinTypes.Yaml
