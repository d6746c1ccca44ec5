import TwinTypes.Yaml.Grammar

/-!
# Documents as trees

The first document of a text as a tree of nodes. A fault cuts the tree off: collections that were
open stay open, and what was still to come is `cut`. A reader of the tree that gets as far as the
cut is told of the fault; one that fails before never hears of it.

A reference to an anchor is a leaf that carries the number of the anchor. Numbers are given out as
anchors come, but the number of a new anchor is how many names there are so far, so a name that is
given twice makes the next new name share its number; of two nodes with one number the later counts.
-/

namespace TwinTypes.Yaml

/-- A part of a document. -/
inductive Node where
  /-- A scalar. -/
  | scalar (mark : Mark) (tag : Option String) (style : ScalarStyle) (text : String)
  /-- A sequence; `whole` says that its end was reached. -/
  | sequence (mark : Mark) (tag : Option String) (items : List Node) (whole : Bool)
  /-- A mapping: keys and values in turn. -/
  | mapping (mark : Mark) (tag : Option String) (parts : List Node) (whole : Bool)
  /-- A reference to the anchor of this number. -/
  | alias (number : Nat)
  /-- A document without content. -/
  | void
  /-- What a fault cut off. -/
  | cut
  deriving Repr, Inhabited

/-- Why a document cannot be read any further. -/
inductive Damage where
  /-- The text is at fault. -/
  | fault (f : Fault)
  /-- A reference has no anchor. -/
  | unknownAnchor (mark : Mark)
  deriving Repr, Inhabited

/-- A document. -/
structure Tree where
  /-- Its content. -/
  root : Node
  /-- The nodes with anchors: number, position in the text, and node. -/
  anchors : List (Nat × Nat × Node)
  /-- How many events it is made of. -/
  size : Nat
  /-- What cut it off. -/
  damage : Option Damage
  /-- Whether another document follows. -/
  followed : Bool
  deriving Repr, Inhabited

namespace Tree

/-- A collection that is open: its properties and what it holds so far, the last first. -/
structure Frame where
  /-- Whether it is a mapping. -/
  isMapping : Bool
  /-- Where it begins. -/
  mark : Mark
  /-- Its tag. -/
  tag : Option String
  /-- The number of its anchor, and its position. -/
  anchor : Option (Nat × Nat)
  /-- What it holds so far, the last first. -/
  parts : List Node
  deriving Repr, Inhabited

/-- A document under construction. -/
structure Builder where
  /-- The open collections, the innermost first. -/
  frames : List Frame
  /-- The content, once it is there. -/
  root : Option Node
  /-- The names of anchors with their numbers, the last given first. -/
  names : List (String × Nat)
  /-- The nodes with anchors. -/
  anchors : List (Nat × Nat × Node)
  /-- How many events there were. -/
  size : Nat
  deriving Inhabited

namespace Builder

/-- Nothing has been read. -/
def start : Builder :=
  ⟨[], none, [], [], 0⟩

/-- How many different names of anchors there are. -/
def nameCount (b : Builder) : Nat :=
  (b.names.map Prod.fst).eraseDups.length

/-- Gives a number to an anchor. -/
def number (b : Builder) (p : Properties) : Option (Nat × Nat) × Builder :=
  match p.anchor with
  | none => (none, b)
  | some name => (some (b.nameCount, b.size), { b with names := (name, b.nameCount) :: b.names })

/-- Puts a complete node where it belongs. -/
def add (b : Builder) (anchor : Option (Nat × Nat)) (node : Node) : Builder :=
  let b := match anchor with
    | some (number, position) => { b with anchors := (number, position, node) :: b.anchors }
    | none => b
  match b.frames with
  | f :: frames => { b with frames := { f with parts := node :: f.parts } :: frames }
  | [] => { b with root := some node }

/-- The node of a collection. -/
def close (f : Frame) (whole : Bool) : Node :=
  if f.isMapping then .mapping f.mark f.tag f.parts.reverse whole
  else .sequence f.mark f.tag f.parts.reverse whole

/-- Opens a collection. -/
def openFrame (b : Builder) (isMapping : Bool) (p : Properties) (mark : Mark) : Builder :=
  let (anchor, b) := b.number p
  { b with frames := ⟨isMapping, mark, p.tag, anchor, []⟩ :: b.frames }

/-- Closes the innermost collection. -/
def closeFrame (b : Builder) (whole : Bool) : Builder :=
  match b.frames with
  | f :: frames => ({ b with frames := frames }).add f.anchor (close f whole)
  | [] => b

/-- Closes every collection that is open, unfinished. -/
def closeAll : List Frame → Builder → Builder
  | [], b => b
  | _ :: rest, b => closeAll rest (b.closeFrame false)

/-- Reads an event; none if it refers to no anchor. -/
def read (b : Builder) (e : Event) : Option Builder :=
  let counted (b : Builder) : Builder := { b with size := b.size + 1 }
  match e.kind with
  | .alias name =>
    (b.names.find? fun n => n.1 == name).map fun n => counted (b.add none (.alias n.2))
  | .scalar p style text =>
    let (anchor, b) := b.number p
    some (counted (b.add anchor (.scalar e.mark p.tag style text)))
  | .sequenceStart p => some (counted (b.openFrame false p e.mark))
  | .mappingStart p => some (counted (b.openFrame true p e.mark))
  | .sequenceEnd => some (counted (b.closeFrame true))
  | .mappingEnd => some (counted (b.closeFrame true))
  | _ => some b

end Builder

/-- The document that has been read so far. -/
def finish (b : Builder) (damage : Option Damage) (followed : Bool) : Tree :=
  let b := Builder.closeAll b.frames b
  let missing := if damage.isSome then .cut else .void
  ⟨b.root.getD missing, b.anchors, b.size, damage, followed⟩

/-- Whether another document begins among some events, or a fault comes first. -/
def goesOn (events : List Event) (fault : Option Fault) : Bool :=
  match events with
  | e :: _ => e.kind != .streamEnd
  | [] => fault.isSome

/-- Reads events up to the end of the document. -/
def build (fault : Option Fault) (b : Builder) : List Event → Tree
  | [] => finish b (fault.map .fault) false
  | e :: rest =>
    match e.kind with
    | .documentEnd => finish b none (goesOn rest fault)
    | .streamEnd => finish b none false
    | _ =>
      match b.read e with
      | some b => build fault b rest
      | none => finish b (some (.unknownAnchor e.mark)) false

/-- **The first document of a text.** -/
def ofText (text : List Char) : Tree :=
  let (es, fault) := events text
  build fault .start es

/-- The node that an anchor number stands for: of those with the number, the last of the text. -/
def anchored (t : Tree) (number : Nat) : Option Node :=
  let found := t.anchors.filter fun a => a.1 == number
  (found.foldl (fun best a => match best with
    | some (position, node) => if position < a.2.1 then some a.2 else some (position, node)
    | none => some a.2) none).map Prod.snd

end Tree

end TwinTypes.Yaml
