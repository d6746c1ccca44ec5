import TwinTypes.Data.Numeral
import TwinTypes.Log.Event
import TwinTypes.Text.Class

/-!
# Filters

Which events are reported. A filter is written as directives with commas between them, each a level,
a target, or a level for a target: `info,ktmap.gen=debug`. A directive may also name a span, which
no event here is in, and fields that an event must have.

The directives of a filter are kept in order, the most specific one first, and of two that differ in
nothing but the level the later one counts. An event is judged by the first directive that is about
it.
-/

namespace TwinTypes.Log

open Text

/-! ### Directives -/

/-- A field that a directive asks for, and the value it must have, if any. -/
structure FieldMatch where
  /-- The name. -/
  name : String
  /-- The value, as it is shown. -/
  value : Option String
  deriving DecidableEq, Repr, Inhabited

/-- What is reported of some events. -/
structure Directive where
  /-- How the targets of the events begin. -/
  target : Option String
  /-- The span that the events are in. -/
  span : Option String
  /-- The fields that the events have. -/
  fields : List FieldMatch
  /-- How much is reported of them. -/
  level : Level
  deriving DecidableEq, Repr, Inhabited

/-- A level by its name or its place. -/
def readLevel (cs : List Char) : Option Level :=
  let digits := match cs with
    | '+' :: rest => rest
    | cs => cs
  match (if digits.all Char.isDigit then Numeral.digits 10 digits else none) with
  | some n => Level.all[n]?
  | none =>
    if cs.isEmpty then some .error
    else Level.all.find? fun l => (String.ofList (cs.map Char.toLower)) == l.name

/-- A text after a sign: a level, or everything if there is none. -/
def levelAfter (cs : List Char) : Option Level :=
  if cs.isEmpty then some .trace else readLevel cs

/-- A floating-point number as short as it can be written without an exponent. -/
def shortFloat (x : Binary64) : String :=
  let cs := x.positional.toList
  if cs.drop (cs.length - 2) = ['.', '0'] then String.ofList (cs.take (cs.length - 2))
  else x.positional

/-- The value that a field must have, as it is shown: numbers in their usual form. -/
def showValue (cs : List Char) : String :=
  let (negative, digits) := Numeral.splitSign cs
  match (if digits.all Char.isDigit then Numeral.digits 10 digits else none) with
  | some n =>
    if (negative && decide (n ≤ twoTo 63)) || (!negative && decide (n < twoTo 64)) then
      toString (if negative then -(n : Int) else (n : Int))
    else shortFloat (Binary64.ofDecimal negative n 0)
  | none =>
    match Numeral.float cs with
    | some x => shortFloat x
    | none => String.ofList cs

/-- The field that a directive asks for. -/
def readField (cs : List Char) : Option FieldMatch :=
  if cs.isEmpty then none
  else
    let (name, rest) := cs.span (· != '=')
    some ⟨String.ofList name, match rest with
      | [] => none
      | _ :: value => some (showValue (value.takeWhile (· != '=')))⟩

/-! ### Reading a directive -/

/-- A directive that begins with one of these characters may be a target or a level. -/
def beginsTarget (c : Char) : Bool :=
  c == '-' || c == ':' || c == '_' || isAlphanumeric c

/-- What is being read of a directive, with the place where it began. -/
inductive Phase where
  /-- Nothing yet. -/
  | start
  /-- A level or a target. -/
  | levelOrTarget (place : Nat)
  /-- The name of a span. -/
  | span (place : Nat)
  /-- A field. -/
  | field (place : Nat)
  /-- What closes the span, after its fields. -/
  | fields
  /-- What follows the span. -/
  | afterSpan
  /-- A level. -/
  | level (place : Nat)
  deriving DecidableEq, Repr

/-- The part of a text between two places. -/
def slice (text : List Char) (start stop : Nat) : List Char :=
  (text.drop start).take (stop - start)

/-- Reads one character of a directive. -/
def readChar (text : List Char) (d : Directive) (phase : Phase) (i : Nat) (c : Char) :
    Option (Directive × Phase) :=
  match phase with
  | .start =>
    if c == '[' then some (d, .span (i + 1))
    else if beginsTarget c then some (d, .levelOrTarget i)
    else none
  | .levelOrTarget place =>
    let before := { d with target := some (String.ofList (slice text place i)) }
    if c == '=' then some (before, .level (i + 1))
    else if c == '[' then some (before, .span (i + 1))
    else some (d, phase)
  | .span place =>
    let name := slice text place i
    if c == ']' then some ({ d with span := some (String.ofList name) }, .afterSpan)
    else if c == '\x7b' then
      some ({ d with span := if name.isEmpty then none else some (String.ofList name) },
        .field (i + 1))
    else some (d, phase)
  | .field place =>
    if c == '\x7d' then
      (readField (slice text place i)).map fun f => ({ d with fields := d.fields ++ [f] }, .fields)
    else some (d, phase)
  | .fields => if c == ']' then some (d, .afterSpan) else none
  | .afterSpan => if c == '=' then some (d, .level (i + 1)) else none
  | .level _ => some (d, phase)

/-- Reads the characters of a directive from a place on. -/
def readChars (text : List Char) (d : Directive) (phase : Phase) (i : Nat) :
    List Char → Option (Directive × Phase)
  | [] => some (d, phase)
  | c :: rest =>
    match readChar text d phase i c with
    | some (d, phase) => readChars text d phase (i + 1) rest
    | none => none

/-- Reads a directive. The blanks around the text are passed over; but places are counted without
them and looked up with them, so blanks in front shift what is read, and blanks at the end are part
of what comes last. -/
def readDirective (text : List Char) : Option Directive :=
  match readChars text ⟨none, none, [], .trace⟩ .start 0 (trim text) with
  | some (d, .levelOrTarget place) =>
    let word := text.drop place
    match readLevel word with
    | some l => some { d with level := l }
    | none => some { d with target := some (String.ofList word) }
  | some (d, .level place) => (levelAfter (text.drop place)).map fun l => { d with level := l }
  | some (d, .afterSpan) => some d
  | _ => none

/-- The pieces of a text between commas, given the piece read so far, last character first. -/
def splitCommas (word : List Char) : List Char → List (List Char)
  | [] => [word.reverse]
  | c :: rest =>
    if c = ',' then word.reverse :: splitCommas [] rest else splitCommas (c :: word) rest

/-- Reads the directives of a filter; pieces without a character are passed over. -/
def readDirectives (text : String) : Option (List Directive) :=
  ((splitCommas [] text.toList).filter fun piece => !piece.isEmpty).mapM readDirective

/-! ### Order -/

/-- Compares texts that may be absent; an absent one comes first. -/
def compareOptional (a b : Option String) : Ordering :=
  match a, b with
  | none, none => .eq
  | none, some _ => .lt
  | some _, none => .gt
  | some a, some b => compare a b

/-- Compares the lengths of texts that may be absent. -/
def compareLength (a b : Option String) : Ordering :=
  match a, b with
  | none, none => .eq
  | none, some _ => .lt
  | some _, none => .gt
  | some a, some b => compare a.utf8ByteSize b.utf8ByteSize

/-- Compares fields: one with a value comes after one without. -/
def compareField (a b : FieldMatch) : Ordering :=
  (compare a.value.isSome b.value.isSome).then
    ((compare a.name b.name).then (compareOptional a.value b.value))

/-- Compares lists of fields, field by field. -/
def compareFields : List FieldMatch → List FieldMatch → Ordering
  | [], [] => .eq
  | [], _ :: _ => .lt
  | _ :: _, [] => .gt
  | a :: as, b :: bs => (compareField a b).then (compareFields as bs)

/-- Compares directives by how specific they are, the more specific one first: by the length of the
target, the span, and the number of fields; and by their texts where these do not tell. -/
def compareDirectives (a b : Directive) : Ordering :=
  ((compareLength a.target b.target).then
    ((compare a.span.isSome b.span.isSome).then
      ((compare a.fields.length b.fields.length).then
        ((compareOptional a.target b.target).then
          ((compareOptional a.span b.span).then (compareFields a.fields b.fields)))))).swap

/-- Adds a directive to directives in order, in the place of one that differs in nothing but the
level. -/
def insertDirective (d : Directive) : List Directive → List Directive
  | [] => [d]
  | e :: rest =>
    match compareDirectives d e with
    | .lt => d :: e :: rest
    | .eq => d :: rest
    | .gt => e :: insertDirective d rest

/-- Directives in order. -/
def inOrder (ds : List Directive) : List Directive :=
  ds.foldl (fun sorted d => insertDirective d sorted) []

/-! ### Filters -/

/-- Whether a directive asks for a span or for fields, which is known only as spans are entered. -/
def Directive.isDynamic (d : Directive) : Bool :=
  d.span.isSome || !d.fields.isEmpty

/-- Whether it can be told of an event alone whether a directive is about it. -/
def Directive.isStatic (d : Directive) : Bool :=
  d.span.isNone && d.fields.all fun f => f.value.isNone

/-- Which events are reported. -/
structure Filter where
  /-- The directives by which an event is judged. -/
  statics : List Directive
  /-- The directives about spans. -/
  dynamics : List Directive
  deriving DecidableEq, Repr, Inhabited

/-- The filter of some directives. -/
def filterOf (ds : List Directive) : Filter where
  statics := inOrder ((ds.filter fun d => !d.isDynamic)
    ++ ds.filter fun d => d.isDynamic && d.isStatic)
  dynamics := inOrder (ds.filter Directive.isDynamic)

/-- The filter that a text describes. -/
def Filter.parse (text : String) : Option Filter :=
  (readDirectives text).map filterOf

/-- A field, as it is shown. -/
def FieldMatch.words (f : FieldMatch) : String :=
  f.name ++ match f.value with
    | some v => "=" ++ v
    | none => ""

/-- A directive, as it is shown. -/
def Directive.words (d : Directive) : String :=
  let fields := if d.fields.isEmpty then "" else
    "\x7b" ++ String.intercalate "," (d.fields.map FieldMatch.words) ++ "\x7d"
  let about := d.target.getD "" ++
    (if d.isDynamic then "[" ++ d.span.getD "" ++ fields ++ "]" else "")
  (if d.target.isSome || d.isDynamic then about ++ "=" else "") ++ d.level.name

/-- **A filter, as it is shown.** -/
def Filter.words (f : Filter) : String :=
  String.intercalate "," ((f.statics ++ f.dynamics).map Directive.words)

/-- Whether a directive is about an event. -/
def Directive.isAbout (d : Directive) (e : Event) : Bool :=
  (match d.target with
    | some t => t.toList.isPrefixOf e.target.toList
    | none => true)
    && d.fields.all fun f => e.fieldNames.contains f.name

/-- **Whether an event is reported.** -/
def Filter.reports (f : Filter) (e : Event) : Bool :=
  match f.statics.find? fun d => d.isAbout e with
  | some d => d.level.covers e.level
  | none => false

end TwinTypes.Log
