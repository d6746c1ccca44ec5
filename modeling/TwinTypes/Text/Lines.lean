/-!
# Lines of a text

`lines` cuts a text at its line feeds; a carriage return right before a line feed belongs to the
line end, and a line feed at the very end opens no further line.
-/

namespace TwinTypes.Text

/-- The text up to the first line feed, and what follows it if there is one. -/
def splitLine : List Char → List Char × Option (List Char)
  | [] => ([], none)
  | c :: rest =>
    if c == '\n' then ([], some rest)
    else
      let (line, more) := splitLine rest
      (c :: line, more)

/-- What follows the first line feed is shorter than the text. -/
theorem length_lt_of_splitLine {cs line rest : List Char}
    (h : splitLine cs = (line, some rest)) : rest.length < cs.length := by
  induction cs generalizing line with
  | nil => simp [splitLine] at h
  | cons c cs ih =>
    unfold splitLine at h
    split at h
    · simp only [Prod.mk.injEq, Option.some.injEq] at h
      simp [h.2]
    · simp only [Prod.mk.injEq] at h
      have split : splitLine cs = ((splitLine cs).1, some rest) := Prod.ext rfl h.2
      have := ih split
      simp only [List.length_cons]
      omega

/-- A line without the carriage return that belongs to its end. -/
def dropReturn (line : List Char) : List Char :=
  if line.getLast? = some '\r' then line.dropLast else line

/-- The lines of a text, without their ends. The carriage return is part of an end only where a line
feed follows it. -/
def lines (cs : List Char) : List (List Char) :=
  match _h : splitLine cs with
  | (line, none) => if line.isEmpty then [] else [line]
  | (line, some rest) => dropReturn line :: lines rest
termination_by cs.length
decreasing_by exact length_lt_of_splitLine _h

end TwinTypes.Text
