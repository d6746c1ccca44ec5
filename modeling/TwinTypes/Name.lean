/-!
# Qualified names

A type is named by a dotted text such as `kotlin.collections.List`. This module cuts such a name at
its last dot, and flattens two names into the name of one directory.

The directory name is the guard against names that would leave the output directory: every
character that could separate path components is replaced, so whatever the two names are the result
is a single component, and it always holds the four characters of `_to_`.
-/

namespace TwinTypes

/-! ### Package and simple name -/

/-- The text before and the text after the last dot, if there is a dot. -/
def splitAtLastDot : List Char → Option (List Char × List Char)
  | [] => none
  | c :: rest =>
    match splitAtLastDot rest with
    | some (before, after) => some (c :: before, after)
    | none => if c = '.' then some ([], rest) else none

/-- The package of a qualified name: what stands before its last dot, unless that is nothing. -/
def packageOf (name : String) : Option String :=
  match splitAtLastDot name.toList with
  | some (before, _) => if before.isEmpty then none else some (String.ofList before)
  | none => none

/-- The last dotted segment of a name. -/
def simpleNameOf (name : String) : String :=
  match splitAtLastDot name.toList with
  | some (_, after) => String.ofList after
  | none => name

/-- The name of a type in a package, if it has one. -/
def qualify (package : Option String) (simple : String) : String :=
  match package with
  | some package => package ++ "." ++ simple
  | none => simple

/-! ### Directory names -/

/-- A character of a directory name: the dot of packages, the dollar sign of nested binary names
and both path separators become an underscore. -/
def segmentChar (c : Char) : Char :=
  if c = '.' ∨ c = '$' ∨ c = '/' ∨ c = '\\' then '_' else c

/-- A text with every character replaced that could split or confuse a path component. -/
def sanitizeSegment (name : String) : String :=
  String.ofList (name.toList.map segmentChar)

/-- The directory of a pair, such as `kotlin_Int_to_java_lang_Integer`. -/
def pairDirName (kotlin java : String) : String :=
  sanitizeSegment (kotlin ++ "_to_" ++ java)

end TwinTypes
