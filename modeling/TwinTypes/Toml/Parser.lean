/-!
# Parsers with two ways to fail

A parser reads the beginning of a text. It fails softly when what it looks for does not begin here,
and then something else may be tried; it fails for good when the thing has begun and goes wrong.

A `Problem` is what a message is made of: the innermost thing that was being read and has a name,
what was expected, from the inside out, and a reason in words.
-/

namespace TwinTypes.Toml

/-- What went wrong. -/
structure Problem where
  /-- The innermost named thing that was being read. -/
  label : Option String
  /-- What was expected. -/
  expected : List String
  /-- A reason in words. -/
  reason : Option String
  deriving DecidableEq, Repr, Inhabited

namespace Problem

/-- Nothing to be said. -/
def none : Problem :=
  ⟨.none, [], .none⟩

/-- A reason in words. -/
def because (reason : String) : Problem :=
  ⟨.none, [], some reason⟩

/-- A problem in words, a line for each part. -/
def message (p : Problem) : String :=
  let label := p.label.toList.map fun l => "invalid " ++ l
  let expected := if p.expected.isEmpty then [] else
    ["expected " ++ String.intercalate ", " p.expected]
  String.intercalate "\n" (label ++ expected ++ p.reason.toList)

end Problem

/-- What a parser gives. -/
inductive Outcome (α : Type) where
  /-- It read something, and this is what follows. -/
  | found (a : α) (rest : List Char)
  /-- What it looks for does not begin here. -/
  | absent (p : Problem)
  /-- What it looks for begins here and goes wrong. -/
  | broken (p : Problem)

/-- A parser. -/
def Parser (α : Type) : Type :=
  List Char → Outcome α

namespace Parser

variable {α β : Type}

/-- Reads nothing. -/
def give (a : α) : Parser α :=
  fun cs => .found a cs

/-- Reads one thing after another. -/
def andThen (p : Parser α) (f : α → Parser β) : Parser β :=
  fun cs =>
    match p cs with
    | .found a rest => f a rest
    | .absent e => .absent e
    | .broken e => .broken e

instance : Monad Parser where
  pure := give
  bind := andThen

/-- Does not begin here. -/
def missing (e : Problem) : Parser α :=
  fun _ => .absent e

/-- Goes wrong here. -/
def wrong (e : Problem) : Parser α :=
  fun _ => .broken e

/-- Goes wrong if it does not begin here. -/
def must (p : Parser α) : Parser α :=
  fun cs =>
    match p cs with
    | .absent e => .broken e
    | other => other

/-- Tries another parser if the first one does not begin here. -/
def orElse (p q : Parser α) : Parser α :=
  fun cs =>
    match p cs with
    | .absent _ => q cs
    | other => other

/-- Reads something if it begins here. -/
def optional (p : Parser α) : Parser (Option α) :=
  fun cs =>
    match p cs with
    | .found a rest => .found (some a) rest
    | .absent _ => .found none cs
    | .broken e => .broken e

/-- Adds to what a failure says. -/
def adding (change : Problem → Problem) (p : Parser α) : Parser α :=
  fun cs =>
    match p cs with
    | .absent e => .absent (change e)
    | .broken e => .broken (change e)
    | other => other

/-- Names what is being read. -/
def named (label : String) (p : Parser α) : Parser α :=
  p.adding fun e => { e with label := e.label <|> some label }

/-- Says what is expected here, after what was expected further inside. -/
def expecting (what : String) (p : Parser α) : Parser α :=
  p.adding fun e => { e with expected := e.expected ++ [what] }

/-- Reads a character of a class. -/
def one (inClass : Char → Bool) : Parser Char :=
  fun cs =>
    match cs with
    | c :: rest => if inClass c then .found c rest else .absent .none
    | [] => .absent .none

/-- Reads one given character. -/
def char (c : Char) : Parser Unit := do
  let _ ← one (· == c)

/-- Reads a given word. -/
def word (w : List Char) : Parser Unit :=
  fun cs => if w.isPrefixOf cs then .found () (cs.drop w.length) else .absent .none

/-- Reads the characters of a class that come first, possibly none. -/
def run (inClass : Char → Bool) : Parser (List Char) :=
  fun cs => .found (cs.takeWhile inClass) (cs.dropWhile inClass)

/-- Reads one or more characters of a class. -/
def run1 (inClass : Char → Bool) : Parser (List Char) :=
  fun cs =>
    match cs.takeWhile inClass with
    | [] => .absent .none
    | found => .found found (cs.dropWhile inClass)

/-- Reads exactly so many characters of a class, or takes them from the front of a longer run. -/
def exactly (count : Nat) (inClass : Char → Bool) : Parser (List Char) :=
  fun cs =>
    let found := (cs.take count).takeWhile inClass
    if found.length = count then .found found (cs.drop count) else .absent .none

/-- Looks at what comes without reading it. -/
def ahead : Parser (List Char) :=
  fun cs => .found cs cs

/-- Reads nothing at the end of the text. -/
def atEnd : Parser Unit :=
  fun cs => if cs.isEmpty then .found () cs else .absent .none

/-- Reads a thing as often as it comes, at most `fuel` times. -/
def many (p : Parser α) : Nat → Parser (List α)
  | 0 => give []
  | fuel + 1 => do
    match ← p.optional with
    | some a => do pure (a :: (← many p fuel))
    | none => pure []

/-- Reads a thing as often as it comes; each reads at least one character. -/
def repeated (p : Parser α) : Parser (List α) :=
  fun cs => many p cs.length cs

/-- Reads things with something between them, possibly none; what would come between and is not
followed by another is left. -/
def separated (p : Parser α) (between : Parser Unit) : Parser (List α) := do
  match ← p.optional with
  | none => pure []
  | some first => do
    let others ← repeated (do
      between
      p)
    pure (first :: others)

end Parser

end TwinTypes.Toml
