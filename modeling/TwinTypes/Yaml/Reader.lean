import TwinTypes.Document.Shape
import TwinTypes.Yaml.Failure
import TwinTypes.Yaml.Resolve

/-!
# Reading documents

Two ways to read a YAML text: as a value of any kind, and as a record of a type described by a
`RecordShape`. Both walk the tree of the document in its order, so that of several complaints the
one about the earliest part is made, and both come to the fault of a text only when they get to
where it cut the tree off.

Nesting is limited, and so is the following of references: a document that refers to itself is
refused for its depth, and one that multiplies by references for their number. The number of
references followed is the state of the walk.
-/

namespace TwinTypes.Yaml

/-- Reads part of a document, counting the references that are followed. -/
abbrev Reading : Type → Type :=
  StateT Nat (Except Failure)

/-- How deep collections may be nested. -/
def depthLimit : Nat :=
  128

/-- How many references may be followed for each part of the document. -/
def referenceLimit : Nat :=
  100

namespace Tree

/-- The failure of a walk that has come to where the tree is cut off. -/
def cutFailure (t : Tree) : Failure :=
  match t.damage with
  | some d => .damaged d
  | none => .absent

/-- Follows a reference. -/
def follow (t : Tree) : Node → Reading Node
  | .alias number => do
    let count ← get
    if t.size * referenceLimit < count + 1 then throw .tooLong
    else do
      set (count + 1)
      match t.anchored number with
      | some node => pure node
      | none => throw t.cutFailure
  | node => pure node

end Tree

/-- Complains about the part of a document that a path leads to. -/
def complain {α : Type} (cause : Cause) (path : Path) (mark : Mark) : Reading α :=
  throw (.unreadable cause path mark)

/-- Goes on with a result, or complains about the part of a document that a path leads to. -/
def orComplain {α : Type} (result : Except Cause α) (path : Path) (mark : Mark) : Reading α :=
  match result with
  | .ok a => pure a
  | .error cause => complain cause path mark

/-- The path to the value under a key. -/
def pathUnder (path : Path) : Node → Path
  | .scalar _ _ _ key => .field path key
  | _ => .unknown path

/-- The key and value pairs of a mapping; a key whose value is cut off has the cut for a value. -/
def pairUp : List Node → List (Node × Node)
  | key :: value :: rest => (key, value) :: pairUp rest
  | [key] => [(key, .cut)]
  | [] => []

/-- Fails unless the end of a collection was reached. -/
def reach (t : Tree) (whole : Bool) : Reading Unit :=
  if whole then pure () else throw t.cutFailure

/-! ### Values of any kind -/

/-- The name of a choice that a tag gives: what follows its exclamation mark. -/
def choiceName (tag : String) : String :=
  String.ofList (match tag.toList.drop 1 with
    | [] => ['!']
    | name => name)

/-- The value of a scalar. -/
def scalarValue (found : Except Cause Meaning) : Except Cause Value :=
  match found with
  | .ok (.value v) => .ok v
  | .ok (.wide n) => .error (.wrongType (.wide n) "any YAML value")
  | .error cause => .error cause

/-- How a complaint shows a key that a mapping has twice. -/
def repeatedKey : Value → String
  | .null => "duplicate entry with null key"
  | .bool b => "duplicate entry with key `" ++ (if b then "true" else "false") ++ "`"
  | .int n => "duplicate entry with key " ++ toString n
  | .float x => "duplicate entry with key " ++ floatText x
  | .text s => "duplicate entry with key " ++ Text.quote s
  | _ => "duplicate entry in YAML map"

/-- Reads the items of a sequence from the given number on. -/
def readItemsFrom (read : Path → Node → Reading Value) (path : Path) :
    Nat → List Node → Reading (List Value)
  | _, [] => pure []
  | i, node :: rest => do
    let v ← read (.item path i) node
    pure (v :: (← readItemsFrom read path (i + 1) rest))

/-- Reads the entries of a mapping after those read before, the last of which comes first. A key
that the mapping has already is refused before its value is looked at. -/
def readPairsAfter (read : Path → Node → Reading Value) (path : Path) (mark : Mark) :
    List (Value × Value) → List (Node × Node) → Reading (List (Value × Value))
  | before, [] => pure before.reverse
  | before, (key, value) :: rest => do
    let k ← read path key
    if before.any fun e => e.1.same k then complain (.remark (repeatedKey k)) path mark
    else do
      let v ← read (pathUnder path key) value
      readPairsAfter read path mark ((k, v) :: before) rest

/-- The value with the tag of its node around it, if that names a choice. -/
def withTag (tag : Option String) (v : Value) : Value :=
  match tag with
  | some tag => if isChoiceTag tag then .tagged (choiceName tag) v else v
  | none => v

/-- Reads the value of a node that is no reference. -/
def readResolved (t : Tree) (read : Path → Node → Reading Value) (deeper : Bool) (path : Path) :
    Node → Reading Value
  | .scalar mark tag style text =>
    if tag.any isChoiceTag then do
      let found := if style = .plain then plainMeaning text else .value (.text text)
      pure (withTag tag (← orComplain (scalarValue (.ok found)) path mark))
    else orComplain (scalarValue (meaning tag style text)) path mark
  | .sequence mark tag items whole =>
    if deeper then do
      let vs ← readItemsFrom read path 0 items
      reach t whole
      pure (withTag tag (.list vs))
    else throw (.tooDeep mark)
  | .mapping mark tag parts whole =>
    if deeper then do
      let es ← readPairsAfter read path mark [] (pairUp parts)
      reach t whole
      pure (withTag tag (.record es))
    else throw (.tooDeep mark)
  | .void => pure .null
  | .alias _ => throw t.cutFailure
  | .cut => throw t.cutFailure

/-- Reads the value of a node within so many levels of collections. -/
def readValue (t : Tree) : Nat → Path → Node → Reading Value
  | 0, path, node => do readResolved t (fun _ _ => throw .tooLong) false path (← t.follow node)
  | depth + 1, path, node => do readResolved t (readValue t depth) true path (← t.follow node)

/-! ### Records -/

/-- A part of a document, how it was come to, and how many levels there may be below it. -/
structure Place where
  /-- The part. -/
  node : Node
  /-- The way to it. -/
  path : Path
  /-- How many levels of collections there may be. -/
  depth : Nat
  deriving Inhabited

/-- Where a node begins. -/
def Node.start : Node → Mark
  | .scalar mark .. => mark
  | .sequence mark .. => mark
  | .mapping mark .. => mark
  | _ => .origin

mutual

/-- Whether nothing of a node is cut off. -/
def Node.isWhole : Node → Bool
  | .sequence _ _ items whole => whole && areWhole items
  | .mapping _ _ parts whole => whole && areWhole parts
  | .cut => false
  | _ => true

/-- Whether nothing of some nodes is cut off. -/
def areWhole : List Node → Bool
  | [] => true
  | node :: rest => node.isWhole && areWhole rest

end

/-- Complains that a node is not what was expected. -/
def mismatch {α : Type} (t : Tree) (expected : String) (path : Path) : Node → Reading α
  | .scalar mark tag style text =>
    match meaning tag style text with
    | .ok m => complain (.wrongType m.found expected) path mark
    | .error cause => complain cause path mark
  | .sequence mark .. => complain (.wrongType .list expected) path mark
  | .mapping mark .. => complain (.wrongType .record expected) path mark
  | .void => throw .absent
  | .alias _ => throw t.cutFailure
  | .cut => throw t.cutFailure

/-- Whether a node is one that is left out, which counts as an empty collection. -/
def isLeftOut : Node → Bool
  | .scalar _ _ .plain text => text.isEmpty
  | .void => true
  | _ => false

/-- Reads a text: any scalar. -/
def readText (t : Tree) (p : Place) (expected : String) : Reading String := do
  match ← t.follow p.node with
  | .scalar _ _ _ text => pure text
  | node => mismatch t expected p.path node

/-- Reads the items of a sequence from the given number on. -/
def readPlacesFrom {α : Type} (read : Place → Reading α) (path : Path) (depth : Nat) :
    Nat → List Node → Reading (List α)
  | _, [] => pure []
  | i, node :: rest => do
    let a ← read ⟨node, .item path i, depth⟩
    pure (a :: (← readPlacesFrom read path depth (i + 1) rest))

/-- Reads a list. -/
def readList {α : Type} (t : Tree) (read : Place → Reading α) (p : Place) : Reading (List α) := do
  match ← t.follow p.node with
  | .sequence mark _ items whole =>
    match p.depth with
    | 0 => throw (.tooDeep mark)
    | depth + 1 => do
      let as ← readPlacesFrom read p.path depth 0 items
      reach t whole
      pure as
  | node => if isLeftOut node then pure [] else mismatch t "a sequence" p.path node

/-- Passes over a part that says nothing; references are not followed. -/
def skipPlace (t : Tree) (p : Place) : Reading Unit :=
  reach t p.node.isWhole

/-- The means by which records read their entries; no record is nested without them. -/
def entrySource (t : Tree) : Source Place Reading where
  fail p cause := complain cause p.path p.node.start
  skip := skipPlace t
  text := readText t
  items := readList t
  record shape p := mismatch t shape.expected p.path p.node

/-- Reads the entries of a record of which those before have been read. -/
def readEntriesAfter {α : Type} (t : Tree) (shape : RecordShape Place Reading α) (p : Place) :
    RecordShape.Progress α → List (Node × Node) → Reading (RecordShape.Progress α)
  | before, [] => pure before
  | before, (key, value) :: rest => do
    let name ← readText t ⟨key, p.path, p.depth⟩ "field identifier"
    let after ← shape.readEntry (entrySource t) p before name
      ⟨value, pathUnder p.path key, p.depth⟩
    readEntriesAfter t shape p after rest

/-- Reads a record. -/
def readRecord {α : Type} (t : Tree) (shape : RecordShape Place Reading α) (p : Place) :
    Reading α := do
  let node ← t.follow p.node
  let whole : Place := ⟨node, p.path, p.depth - 1⟩
  match node with
  | .mapping mark _ parts ended =>
    if p.depth = 0 then throw (.tooDeep mark)
    else do
      let progress ← readEntriesAfter t shape whole ⟨shape.blank, []⟩ (pairUp parts)
      reach t ended
      shape.finish (entrySource t) whole progress .missingField
  | node =>
    if isLeftOut node then
      shape.finish (entrySource t) whole ⟨shape.blank, []⟩ .missingField
    else mismatch t shape.expected p.path node

/-- YAML documents as a notation. -/
def source (t : Tree) : Source Place Reading :=
  { entrySource t with record := readRecord t }

/-- Reads nothing, which must follow a tag that names a kind. -/
def readNothing (t : Tree) (path : Path) : Node → Reading Unit
  | .scalar mark _ style text =>
    if text.isEmpty || (style == .plain && isNullWord text) then pure ()
    else complain (.wrongValue (.text text) "null") path mark
  | node => mismatch t "unit" path node

/-- The tag of a node, if it names a choice. -/
def choiceTag : Node → Option String
  | .scalar _ tag _ _ => tag.filter isChoiceTag
  | .sequence _ tag _ _ => tag.filter isChoiceTag
  | .mapping _ tag _ _ => tag.filter isChoiceTag
  | _ => none

/-- Reads a kind: its keyword, or the keyword as a tag with nothing after it. -/
def readKind (t : Tree) (p : Place) : Reading Kind := do
  let node ← t.follow p.node
  let place : Place := ⟨node, p.path, p.depth⟩
  match choiceTag node with
  | some tag => do
    let kind ← readKeyword (source t) place (choiceName tag)
    readNothing t p.path node
    pure kind
  | none =>
    match node with
    | .scalar _ _ _ text => readKeyword (source t) place text
    | .void => throw .absent
    | node => mismatch t "a YAML tag starting with '!'" p.path node

/-! ### Texts -/

/-- Reads a text, given how its document is read. -/
def readWith {α : Type} (text : String) (read : Tree → Reading α) : Except Failure α :=
  match firstControl 0 text.toList with
  | some offset => .error (.control offset)
  | none =>
    let tree := Tree.ofText text.toList
    match (read tree).run 0 with
    | .error failure => .error failure
    | .ok (a, _) =>
      match tree.damage with
      | some damage => .error (.damaged damage)
      | none => if tree.followed then .error .several else .ok a

/-- **The value of a YAML text.** -/
def parseValue (text : String) : Except Failure Value :=
  readWith text fun t => readValue t depthLimit .root t.root

/-- **The index in a YAML text.** -/
def parseIndex (text : String) : Except Failure MappingIndex :=
  readWith text fun t =>
    readRecord t (indexShape (source t) (readKind t)) ⟨t.root, .root, depthLimit⟩

/-- **The report in a YAML text.** -/
def parseReport (text : String) : Except Failure Report :=
  readWith text fun t => readRecord t (reportShape (source t)) ⟨t.root, .root, depthLimit⟩

end TwinTypes.Yaml
