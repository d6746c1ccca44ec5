import TwinTypes.Descriptor
import TwinTypes.Text.Lines
import TwinTypes.Text.Class

/-!
# Reading a stub back

`readTypeInfo` recovers the kind and the qualified name of the type that a stub declares. It reads
line by line: a `package` line sets the package, the first line that declares a class or an
interface ends the reading, and every other line says nothing. Lines are trimmed first, and blanks
and word characters are those of Unicode.

Each pattern is a sequence of fixed words and of runs that cannot overlap – a run of blanks is never
followed by a blank – so there is at most one way to read a line and nothing has to be retried.
-/

namespace TwinTypes

open Text

/-- What follows a fixed word and at least one blank, without the blanks. -/
def afterWord (word line : List Char) : Option (List Char) :=
  if word.isPrefixOf line then
    match line.drop word.length with
    | c :: rest => if isBlank c then some (dropBlanks rest) else none
    | [] => none
  else none

/-- Dropping blanks never lengthens a text. -/
theorem length_dropBlanks_le (cs : List Char) : (dropBlanks cs).length ≤ cs.length :=
  List.IsSuffix.length_le (List.dropWhile_suffix _)

/-- What follows a word is shorter than the line. -/
theorem length_lt_of_afterWord {word line rest : List Char}
    (h : afterWord word line = some rest) : rest.length < line.length := by
  unfold afterWord at h
  split at h
  · split at h
    · rename_i c tail heq
      split at h
      · have hlen : (line.drop word.length).length = tail.length + 1 := by rw [heq]; rfl
        have hle := length_dropBlanks_le tail
        simp only [Option.some.injEq] at h
        rw [List.length_drop] at hlen
        rw [← h]
        omega
      · simp at h
    · simp at h
  · simp at h

/-- The first run of characters of a class, if it is not empty. -/
def leadingRun (inClass : Char → Bool) (cs : List Char) : Option (List Char) :=
  match cs.takeWhile inClass with
  | [] => none
  | word => some word

/-- A character of a package name: of a word, or a dot. -/
def isPackageChar (c : Char) : Bool :=
  isWord c || c == '.'

/-- The package that a line sets, if it is a package line. -/
def packageLine (line : List Char) : Option (List Char) :=
  (afterWord "package".toList line).bind (leadingRun isPackageChar)

/-- The words that may stand before `class` or `interface`, in any number. -/
def modifiers : List (List Char) :=
  ["final".toList, "open".toList, "abstract".toList]

/-- A line without the modifiers at its front. -/
def dropModifiers (line : List Char) : List Char :=
  match _h : modifiers.findSome? fun word => afterWord word line with
  | some rest => dropModifiers rest
  | none => line
termination_by line.length
decreasing_by
  obtain ⟨_, _, hw⟩ := List.exists_of_findSome?_eq_some _h
  exact length_lt_of_afterWord hw

/-- The kind and the simple name that a line declares, if it is a declaration line. -/
def declarationLine (line : List Char) : Option (Kind × List Char) :=
  let line := dropModifiers ((afterWord "public".toList line).getD line)
  Kind.all.findSome? fun kind =>
    ((afterWord kind.keyword.toList line).bind (leadingRun isWord)).map fun name => (kind, name)

/-- Reads trimmed lines, with the package that the lines before them set. -/
def readLines (package : Option (List Char)) : List (List Char) → Option TypeInfo
  | [] => none
  | line :: rest =>
    match packageLine line with
    | some found => readLines (some found) rest
    | none =>
      match declarationLine line with
      | some (kind, simple) =>
        some ⟨kind, qualify (package.map String.ofList) (String.ofList simple)⟩
      | none => readLines package rest

/-- **The kind and the qualified name of the type that a text declares**, if it declares one. -/
def readTypeInfo (source : String) : Option TypeInfo :=
  readLines none ((lines source.toList).map trim)

end TwinTypes
