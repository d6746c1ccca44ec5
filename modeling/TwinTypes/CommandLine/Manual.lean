/-!
# Manuals

What a command offers, as data: its parameters, its operands and the commands below it. Arguments
are read by a manual, and the help page is printed from it, so the two cannot disagree on what there
is.
-/

namespace TwinTypes.CommandLine

/-- What a parameter is for. -/
inductive Role where
  /-- It gives a value, which goes by a name in the manual. -/
  | value (name : String)
  /-- It turns something on. -/
  | switch
  /-- It asks for the help page. -/
  | help
  /-- It asks for the version. -/
  | version
  deriving DecidableEq, Repr, Inhabited

/-- A parameter. -/
structure Parameter where
  /-- Its name, without the hyphens. -/
  name : String
  /-- The letter that stands for it. -/
  letter : Option Char
  /-- What it is for. -/
  role : Role
  /-- What it does, in a line. -/
  about : String
  /-- The names of the parameters that cannot be given with it. -/
  excludes : List String
  deriving DecidableEq, Repr, Inhabited

/-- How a parameter is written, with the name of its value. -/
def Parameter.label (p : Parameter) : String :=
  match p.role with
  | .value name => "--" ++ p.name ++ " <" ++ name ++ ">"
  | _ => "--" ++ p.name

/-- An operand: an argument that is known by its place. -/
structure Operand where
  /-- How it is written in the manual. -/
  label : String
  /-- What it is, in a line. -/
  about : String
  deriving DecidableEq, Repr, Inhabited

/-- What there is to say about a command. -/
structure Manual where
  /-- The words that call it. -/
  call : String
  /-- What it does, in a line. -/
  about : String
  /-- The names of the commands below it, each with what it does. -/
  commands : List (String × String)
  /-- Its operands, in order. -/
  operands : List Operand
  /-- Its parameters, in the order of the help page. -/
  parameters : List Parameter
  deriving DecidableEq, Repr, Inhabited

namespace Manual

/-- The parameter of some name. -/
def named? (m : Manual) (name : String) : Option Parameter :=
  m.parameters.find? fun p => p.name == name

/-- The parameter that a letter stands for. -/
def lettered? (m : Manual) (letter : Char) : Option Parameter :=
  m.parameters.find? fun p => p.letter == some letter

/-- Whether a command of some name is below this one. -/
def offers (m : Manual) (name : String) : Bool :=
  m.commands.any fun c => c.1 == name

end Manual

/-! ### The help page -/

/-- A text with blanks at its end, so many characters in all. -/
def padRight (width : Nat) (s : String) : String :=
  s ++ String.ofList (List.replicate (width - s.length) ' ')

/-- A part of the page: a heading over lines, each a label and what there is to say about it. The
second column is two blanks to the right of the longest label. -/
def block (heading : String) (lines : List (String × String)) : String :=
  if lines.isEmpty then ""
  else
    let width := lines.foldl (fun w l => max w l.1.length) 0
    "\n" ++ heading ++ ":\n"
      ++ String.join (lines.map fun l => "  " ++ padRight width l.1 ++ "  " ++ l.2 ++ "\n")

/-- The label of a parameter in its block, where there is room for a letter before each name. -/
def Parameter.line (p : Parameter) : String × String :=
  ((match p.letter with
    | some c => "-" ++ c.toString ++ ", "
    | none => "    ") ++ p.label, p.about)

/-- How a command is called, in a line. -/
def Manual.usage (m : Manual) : String :=
  "Usage: " ++ m.call ++ (if m.parameters.isEmpty then "" else " [OPTIONS]")
    ++ String.join (m.operands.map fun o => " " ++ o.label)
    ++ (if m.commands.isEmpty then "" else " <COMMAND>")

/-- **The help page of a command.** -/
def Manual.page (m : Manual) : String :=
  m.about ++ "\n\n" ++ m.usage ++ "\n"
    ++ block "Commands" m.commands
    ++ block "Arguments" (m.operands.map fun o => (o.label, o.about))
    ++ block "Options" (m.parameters.map Parameter.line)

end TwinTypes.CommandLine
