import TwinTypes.Yaml.Mark

/-!
# Tokens

What a YAML text is cut into. The beginning and the end of a block collection have tokens of their
own, which stand for a change of indentation and not for any character.
-/

namespace TwinTypes.Yaml

/-- How a scalar is written. -/
inductive ScalarStyle where
  /-- Without quotes. -/
  | plain
  /-- Between single quotes. -/
  | single
  /-- Between double quotes. -/
  | double
  /-- In lines of its own. -/
  | block
  deriving DecidableEq, Repr, Inhabited

/-- What a token is. -/
inductive TokenKind where
  /-- The beginning of the text. -/
  | streamStart
  /-- The end of the text. -/
  | streamEnd
  /-- A directive that gives the version. -/
  | version (major minor : Nat)
  /-- A directive that lets a handle stand for the beginning of a tag. -/
  | tagDirective (handle lead : String)
  /-- The marker before a document. -/
  | documentStart
  /-- The marker after a document. -/
  | documentEnd
  /-- The beginning of a block sequence. -/
  | blockSequenceStart
  /-- The beginning of a block mapping. -/
  | blockMappingStart
  /-- The end of a block collection. -/
  | blockEnd
  /-- The bracket that opens a sequence. -/
  | flowSequenceStart
  /-- The bracket that closes a sequence. -/
  | flowSequenceEnd
  /-- The brace that opens a mapping. -/
  | flowMappingStart
  /-- The brace that closes a mapping. -/
  | flowMappingEnd
  /-- The dash before an item. -/
  | blockEntry
  /-- The comma between items. -/
  | flowEntry
  /-- The beginning of a key. -/
  | key
  /-- The colon before a value. -/
  | value
  /-- A reference to an anchor. -/
  | alias (name : String)
  /-- An anchor. -/
  | anchor (name : String)
  /-- A tag: its handle, which may be empty, and the rest of it. -/
  | tag (handle rest : String)
  /-- A scalar. -/
  | scalar (style : ScalarStyle) (text : String)
  deriving DecidableEq, Repr, Inhabited

/-- A token and its place. -/
structure Token where
  /-- What it is. -/
  kind : TokenKind
  /-- Where it begins. -/
  start : Mark
  /-- Where it ends. -/
  stop : Mark
  deriving DecidableEq, Repr, Inhabited

end TwinTypes.Yaml
