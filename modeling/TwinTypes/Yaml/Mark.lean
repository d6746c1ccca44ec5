/-!
# Places in a text, and what is wrong there

A `Mark` is a place in a YAML text; a `Fault` says what is wrong at a place and, where that helps,
what was being read and where that began.
-/

namespace TwinTypes.Yaml

/-- A place in a text: how many characters, lines, and characters of the line come before it. -/
structure Mark where
  /-- The characters before it. -/
  index : Nat
  /-- The lines before it. -/
  line : Nat
  /-- The characters before it on its line. -/
  column : Nat
  deriving DecidableEq, Repr, Inhabited

namespace Mark

/-- The beginning of a text. -/
def origin : Mark :=
  ⟨0, 0, 0⟩

/-- Whether a place is at the beginning of the first line. -/
def isOrigin (m : Mark) : Bool :=
  m.line == 0 && m.column == 0

/-- A line break: a line feed, or one of the two separators that only Unicode has. Other ways to
end a line are line feeds by the time a text is scanned. -/
def isBreak (c : Char) : Bool :=
  c == '\n' || c == '\u2028' || c == '\u2029'

/-- The place after a character. -/
def after (m : Mark) (c : Char) : Mark :=
  if isBreak c then ⟨m.index + 1, m.line + 1, 0⟩ else ⟨m.index + 1, m.line, m.column + 1⟩

/-- The beginning of the line after a place, unless the place begins a line. -/
def closed (m : Mark) : Mark :=
  if m.column = 0 then m else ⟨m.index, m.line + 1, 0⟩

/-- A place in words, counting from one. -/
def words (m : Mark) : String :=
  "line " ++ toString (m.line + 1) ++ " column " ++ toString (m.column + 1)

/-- The words that add a place to a message; the beginning of a text is not worth naming. -/
def suffix (m : Mark) : String :=
  if m.isOrigin then "" else " at " ++ m.words

end Mark

/-- What is wrong with a text. -/
structure Fault where
  /-- What is wrong. -/
  problem : String
  /-- Where it shows. -/
  mark : Mark
  /-- What was being read, and where that began. -/
  context : Option (String × Mark)
  deriving DecidableEq, Repr, Inhabited

/-- A fault in words. The place where the reading began is named if it differs from the place of the
fault. -/
def Fault.message (f : Fault) : String :=
  f.problem ++ f.mark.suffix ++
    match f.context with
    | none => ""
    | some (what, start) =>
      ", " ++ what ++
        (if start.line = f.mark.line ∧ start.column = f.mark.column then "" else start.suffix)

end TwinTypes.Yaml
