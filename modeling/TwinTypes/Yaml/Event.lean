import TwinTypes.Yaml.Token

/-!
# Events

What a reader of a YAML text sees: where documents and collections begin and end, scalars, and
references to anchors.
-/

namespace TwinTypes.Yaml

/-- The anchor and the tag of a node. -/
structure Properties where
  /-- The anchor. -/
  anchor : Option String
  /-- The tag, with its handle replaced by what it stands for. -/
  tag : Option String
  deriving DecidableEq, Repr, Inhabited

/-- What an event is. -/
inductive EventKind where
  /-- The end of the text. -/
  | streamEnd
  /-- The beginning of a document. -/
  | documentStart
  /-- The end of a document. -/
  | documentEnd
  /-- A reference to an anchor. -/
  | alias (name : String)
  /-- A scalar. -/
  | scalar (properties : Properties) (style : ScalarStyle) (text : String)
  /-- The beginning of a sequence. -/
  | sequenceStart (properties : Properties)
  /-- The end of a sequence. -/
  | sequenceEnd
  /-- The beginning of a mapping. -/
  | mappingStart (properties : Properties)
  /-- The end of a mapping. -/
  | mappingEnd
  deriving DecidableEq, Repr, Inhabited

/-- An event and its place. -/
structure Event where
  /-- What it is. -/
  kind : EventKind
  /-- Where it begins. -/
  mark : Mark
  deriving DecidableEq, Repr, Inhabited

end TwinTypes.Yaml
