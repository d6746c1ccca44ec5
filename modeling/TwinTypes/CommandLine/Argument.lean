import TwinTypes.CommandLine.Manual

/-!
# Reading arguments

`Reading.words` reads the arguments of a command by its manual, from left to right, up to the name
of a command below it. `Reading.operands` reads what comes after two hyphens, where nothing is a
parameter any more.

The value of a parameter that is an argument of its own is *pending* until the next thing is read.
What is wrong with it is found only then, so a fault in the argument after it may come first.
-/

namespace TwinTypes.CommandLine

/-- Why arguments are refused. -/
inductive UsageError where
  /-- There is no such parameter, or no place for an operand. -/
  | unexpected (argument : String)
  /-- There is no such command. -/
  | unknownCommand (name : String)
  /-- A parameter lacks its value. -/
  | valueMissing (label : String)
  /-- A parameter that takes no value has one. -/
  | valueUnexpected (value label : String)
  /-- A parameter is given twice. -/
  | repeated (label : String)
  /-- Two parameters exclude each other. -/
  | excluded (label other : String)
  /-- Operands are missing. -/
  | operandsMissing
  /-- There is no command. -/
  | commandMissing (call : String)
  deriving DecidableEq, Repr, Inhabited

/-- Why arguments are refused, in words. -/
def UsageError.message : UsageError → String
  | unexpected argument => "unexpected argument '" ++ argument ++ "' found"
  | unknownCommand name => "unrecognized subcommand '" ++ name ++ "'"
  | valueMissing label => "a value is required for '" ++ label ++ "' but none was supplied"
  | valueUnexpected value label =>
    "unexpected value '" ++ value ++ "' for '" ++ label ++ "' found; no more were expected"
  | repeated label => "the argument '" ++ label ++ "' cannot be used multiple times"
  | excluded label other => "the argument '" ++ label ++ "' cannot be used with '" ++ other ++ "'"
  | operandsMissing => "the following required arguments were not provided:"
  | commandMissing call => "'" ++ call ++ "' requires a subcommand but one was not provided"

/-- What is to be done instead of what the arguments ask for. -/
inductive Stop where
  /-- Show the help page of a command. -/
  | help (m : Manual)
  /-- Show the version. -/
  | version
  /-- Show the help page because there is no command. -/
  | nothing (m : Manual)
  /-- Refuse the arguments. -/
  | refuse (e : UsageError)
  deriving DecidableEq, Repr, Inhabited

/-! ### Words -/

/-- What an argument looks like. -/
inductive Word where
  /-- Two hyphens. -/
  | escape
  /-- Two hyphens and a name, with a value after an equals sign. -/
  | named (name : String) (value : Option String)
  /-- A hyphen and letters. -/
  | lettered (letters : List Char)
  /-- Anything else. -/
  | plain
  deriving DecidableEq, Repr, Inhabited

/-- The part of a text before the first equals sign, and the part after it. -/
def splitValue : List Char → List Char × Option (List Char)
  | [] => ([], none)
  | '=' :: rest => ([], some rest)
  | c :: rest =>
    let (name, value) := splitValue rest
    (c :: name, value)

/-- What an argument looks like. -/
def Word.of (argument : String) : Word :=
  match argument.toList with
  | ['-', '-'] => .escape
  | '-' :: '-' :: rest =>
    let (name, value) := splitValue rest
    .named (String.ofList name) (value.map String.ofList)
  | '-' :: c :: rest => .lettered (c :: rest)
  | _ => .plain

/-! ### What is given -/

/-- What a command is given. -/
structure Given where
  /-- The parameters, in order, with their values. -/
  settings : List (Parameter × Option String)
  /-- The operands, in order. -/
  operands : List String
  deriving DecidableEq, Repr, Inhabited

namespace Given

/-- Whether a parameter is given. -/
def has (g : Given) (name : String) : Bool :=
  g.settings.any fun s => s.1.name == name

/-- The value of a parameter. -/
def value? (g : Given) (name : String) : Option String :=
  (g.settings.find? fun s => s.1.name == name).bind Prod.snd

/-- Gives a parameter. None may be given twice, and no value may be empty. -/
def set (g : Given) (p : Parameter) (value : Option String) : Except Stop Given :=
  if g.has p.name then .error (.refuse (.repeated p.label))
  else if value = some "" then .error (.refuse (.valueMissing p.label))
  else .ok { g with settings := g.settings ++ [(p, value)] }

/-- The first two parameters given that exclude each other. -/
def clash (g : Given) : Option (Parameter × Parameter) :=
  g.settings.findSome? fun s =>
    g.settings.findSome? fun t =>
      if s.1.excludes.contains t.1.name || t.1.excludes.contains s.1.name then some (s.1, t.1)
      else none

end Given

/-! ### Reading -/

/-- How far arguments have been read. -/
structure Reading where
  /-- What has been given. -/
  given : Given
  /-- The last parameter, if its value is an argument of its own and is not settled yet. The value
  is there once it has been read. -/
  pending : Option (Parameter × Option String)
  deriving DecidableEq, Repr, Inhabited

namespace Reading

/-- Before the first argument. -/
def start : Reading :=
  ⟨⟨[], []⟩, none⟩

/-- The parameter whose value is the next argument, unless that is a parameter too. -/
def awaits (r : Reading) : Option Parameter :=
  match r.pending with
  | some (p, none) => some p
  | _ => none

/-- Gives the pending parameter. -/
def settle (r : Reading) : Except Stop Given :=
  match r.pending with
  | none => .ok r.given
  | some (p, none) => .error (.refuse (.valueMissing p.label))
  | some (p, some value) => r.given.set p (some value)

/-- Reads a parameter, and what is written after an equals sign. -/
def parameter (m : Manual) (r : Reading) (p : Parameter) (attached : Option String) :
    Except Stop Reading :=
  match p.role, attached with
  | .value _, some value => do
    let g ← (← r.settle).set p (some value)
    .ok ⟨g, none⟩
  | .value _, none => do
    let g ← r.settle
    .ok ⟨g, some (p, none)⟩
  | _, some value => .error (.refuse (.valueUnexpected value p.label))
  | .switch, none => do
    let g ← (← r.settle).set p none
    .ok ⟨g, none⟩
  | .help, none => do
    let _ ← r.settle
    .error (.help m)
  | .version, none => do
    let _ ← r.settle
    .error .version

/-- Reads letters that stand for parameters. -/
def letters (m : Manual) (r : Reading) : List Char → Except Stop Reading
  | [] => .ok r
  | c :: rest =>
    match m.lettered? c with
    | some p => do
      let r ← parameter m r p none
      letters m r rest
    | none => .error (.refuse (.unexpected ("-" ++ c.toString)))

/-- Reads an operand; `escaped` says that it comes after two hyphens. -/
def operand (m : Manual) (escaped : Bool) (r : Reading) (argument : String) :
    Except Stop Reading :=
  if r.given.operands.length < m.operands.length then do
    let g ← r.settle
    .ok ⟨{ g with operands := g.operands ++ [argument] }, none⟩
  else if m.commands.isEmpty || (escaped && m.offers argument) then
    .error (.refuse (.unexpected argument))
  else .error (.refuse (.unknownCommand argument))

/-- Reads arguments that are all operands. -/
def operands (m : Manual) (r : Reading) : List String → Except Stop Reading
  | [] => .ok r
  | argument :: rest => do
    let r ← operand m true r argument
    operands m r rest

/-- **Reads the arguments of a command**, up to the name of a command below it. Gives that name and
the arguments after it, if there is one. -/
def words (m : Manual) (r : Reading) :
    List String → Except Stop (Reading × Option (String × List String))
  | [] => .ok (r, none)
  | argument :: rest =>
    if r.awaits.isNone && m.offers argument then .ok (r, some (argument, rest))
    else
      match Word.of argument with
      | .escape => do
        let r ← operands m r rest
        .ok (r, none)
      | .named name value =>
        match m.named? name with
        | some p => do
          let r ← parameter m r p value
          words m r rest
        | none => .error (.refuse (.unexpected ("--" ++ name)))
      | .lettered cs => do
        let r ← letters m r cs
        words m r rest
      | .plain =>
        match r.awaits with
        | some p => words m { r with pending := some (p, some argument) } rest
        | none => do
          let r ← operand m false r argument
          words m r rest

end Reading

/-- Reads the arguments of a command that has no commands below it. -/
def readGiven (m : Manual) (arguments : List String) : Except Stop Given := do
  let (r, _) ← Reading.start.words m arguments
  let g ← r.settle
  match g.clash with
  | some (p, other) => .error (.refuse (.excluded p.label other.label))
  | none =>
    if g.operands.length < m.operands.length then .error (.refuse .operandsMissing) else .ok g

end TwinTypes.CommandLine
