import TwinTypes.Data.JsonText

/-!
# Events

What a run reports about itself, and the two ways of writing it on a line: for people, or as a JSON
record. The time at which an event is reported is not part of it; a line is written for a given
time.
-/

namespace TwinTypes.Log

/-- How much is reported: an event of some level is reported where at least that level is asked
for. -/
inductive Level where
  /-- Nothing. -/
  | off
  /-- Errors. -/
  | error
  /-- Warnings. -/
  | warn
  /-- What happens. -/
  | info
  /-- How it happens. -/
  | debug
  /-- Everything. -/
  | trace
  deriving DecidableEq, Repr, Inhabited

namespace Level

/-- The place of a level, from nothing to everything. -/
def rank : Level → Nat
  | off => 0
  | error => 1
  | warn => 2
  | info => 3
  | debug => 4
  | trace => 5

/-- The name of a level. -/
def name : Level → String
  | off => "off"
  | error => "error"
  | warn => "warn"
  | info => "info"
  | debug => "debug"
  | trace => "trace"

/-- The name of a level in capitals. -/
def label (l : Level) : String :=
  l.name.toUpper

/-- The levels, from nothing to everything. -/
def all : List Level :=
  [off, error, warn, info, debug, trace]

/-- Whether the first level asks for everything that the second one asks for. -/
def covers (l other : Level) : Bool :=
  decide (other.rank ≤ l.rank)

end Level

/-- The value of a field of an event. -/
inductive FieldValue where
  /-- A text. -/
  | text (s : String)
  /-- A number. -/
  | number (n : Nat)
  deriving DecidableEq, Repr, Inhabited

/-- Something that happened. -/
structure Event where
  /-- How much has to be asked for to hear of it. -/
  level : Level
  /-- The part of the program that reports it. -/
  target : String
  /-- What happened. -/
  message : String
  /-- With what. -/
  fields : List (String × FieldValue)
  deriving DecidableEq, Repr, Inhabited

/-- The names of the fields of an event; its message is one of them. -/
def Event.fieldNames (e : Event) : List String :=
  "message" :: e.fields.map Prod.fst

/-! ### Lines -/

/-- The value of a field, as it is. -/
def FieldValue.plain : FieldValue → String
  | text s => s
  | number n => toString n

/-- The value of a field as JSON. -/
def FieldValue.json : FieldValue → String
  | text s => Data.jsonString s
  | number n => toString n

/-- A text with blanks in front, so many characters in all. -/
def padLeft (width : Nat) (s : String) : String :=
  String.ofList (List.replicate (width - s.length) ' ') ++ s

/-- The line of an event for people. -/
def Event.plainLine (time : String) (e : Event) : String :=
  time ++ " " ++ padLeft 5 e.level.label ++ " " ++ e.target ++ ": " ++ e.message
    ++ String.join (e.fields.map fun f => " " ++ f.1 ++ "=" ++ f.2.plain) ++ "\n"

/-- The line of an event as a JSON record. -/
def Event.jsonLine (time : String) (e : Event) : String :=
  "\x7b\"timestamp\":" ++ Data.jsonString time ++ ",\"level\":" ++ Data.jsonString e.level.label
    ++ ",\"fields\":\x7b\"message\":" ++ Data.jsonString e.message
    ++ String.join (e.fields.map fun f => "," ++ Data.jsonString f.1 ++ ":" ++ f.2.json)
    ++ "\x7d,\"target\":" ++ Data.jsonString e.target ++ "\x7d\n"

end TwinTypes.Log
