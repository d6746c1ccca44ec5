import TwinTypes.CommandLine.Argument

/-!
# The commands

The commands of the program, with their manuals, and how the arguments of the program call one.
-/

namespace TwinTypes.CommandLine

/-- What the program is told to do. -/
inductive Command where
  /-- Write the files of every pair. -/
  | generate (input : Option String) (builtin : Bool) (output : Option String) (index json : Bool)
  /-- Make the index anew. -/
  | index (output indexFile : Option String) (json : Bool)
  /-- Show the report on a pair. -/
  | inspect (kotlin java : String) (stubs json : Bool)
  /-- Show the mapped-types document of the built-in pairs. -/
  | pairs (json : Bool)
  deriving DecidableEq, Repr, Inhabited

/-- A command, and the config file it is called with. -/
structure Invocation where
  /-- The path of the config file. -/
  configPath : Option String
  /-- The command. -/
  command : Command
  deriving DecidableEq, Repr, Inhabited

/-! ### Manuals -/

/-- The words that call the program. -/
def programName : String :=
  "ktmap"

/-- The version of the program. -/
def version : String :=
  "0.1.0"

/-- A parameter with a value. -/
def valueParameter (name value about : String) : Parameter :=
  ⟨name, none, .value value, about, []⟩

/-- A parameter that turns something on. -/
def switchParameter (name about : String) : Parameter :=
  ⟨name, none, .switch, about, []⟩

/-- The config file. -/
def configParameter : Parameter :=
  valueParameter "config" "CONFIG"
    "Config file (defaults to `KTMAP_CONFIG_PATH`, then `ktmap.toml` in the current directory)"

/-- A document as JSON. -/
def jsonParameter : Parameter :=
  switchParameter "json" "Emit JSON suitable for CI"

/-- The help page. -/
def helpParameter : Parameter :=
  ⟨"help", some 'h', .help, "Print help", []⟩

/-- The version. -/
def versionParameter : Parameter :=
  ⟨"version", some 'V', .version, "Print version", []⟩

/-- A command of the program: its manual, and the command that it is when given something. -/
structure Entry where
  /-- The name of the command. -/
  name : String
  /-- What it does, in a line. -/
  about : String
  /-- Its operands. -/
  operands : List Operand
  /-- Its own parameters. -/
  parameters : List Parameter
  /-- The command with what it is given. -/
  build : Given → Option Command

/-- The manual of a command. Every command has the config file and the help page besides its own
parameters. -/
def Entry.manual (e : Entry) : Manual where
  call := programName ++ " " ++ e.name
  about := e.about
  commands := []
  operands := e.operands
  parameters := [configParameter] ++ e.parameters ++ [helpParameter]

/-- Writing the files of every pair. -/
def generateEntry : Entry where
  name := "generate"
  about := "Write stubs and mapping details for every pair in the mapped-types document"
  operands := []
  parameters := [
    { valueParameter "input" "INPUT" "Mapped-types document (YAML)" with excludes := ["builtin"] },
    switchParameter "builtin"
      "Use the built-in list of documented mapped types instead of a document",
    valueParameter "output" "OUTPUT" "Output root; one directory per pair is created beneath it",
    switchParameter "index" "Also rebuild the index file after generating",
    jsonParameter]
  build g := some (.generate (g.value? "input") (g.has "builtin") (g.value? "output")
    (g.has "index") (g.has "json"))

/-- Making the index anew. -/
def indexEntry : Entry where
  name := "index"
  about := "Rebuild the mapped-types index from generated directories"
  operands := []
  parameters := [
    valueParameter "output" "OUTPUT" "Output root containing generated pair directories",
    valueParameter "index-file" "INDEX_FILE" "Index file to write",
    jsonParameter]
  build g := some (.index (g.value? "output") (g.value? "index-file") (g.has "json"))

/-- Showing the report on a pair. -/
def inspectEntry : Entry where
  name := "inspect"
  about := "Print the correspondence report for a single pair without writing files"
  operands := [
    ⟨"<KOTLIN>", "Fully-qualified Kotlin type, e.g. `kotlin.collections.List`"⟩,
    ⟨"<JAVA>", "Fully-qualified Java type, e.g. `java.util.List`"⟩]
  parameters := [switchParameter "stubs" "Also print both stubs", jsonParameter]
  build g :=
    match g.operands with
    | [kotlin, java] => some (.inspect kotlin java (g.has "stubs") (g.has "json"))
    | _ => none

/-- Showing the built-in pairs. -/
def pairsEntry : Entry where
  name := "pairs"
  about := "Print the built-in mapped-types document"
  operands := []
  parameters := [jsonParameter]
  build g := some (.pairs (g.has "json"))

/-- The commands. -/
def entries : List Entry :=
  [generateEntry, indexEntry, inspectEntry, pairsEntry]

/-- The command of some name. -/
def entryNamed (name : String) : Option Entry :=
  entries.find? fun e => e.name == name

/-- The manual of the command that shows help pages. -/
def helpManual : Manual where
  call := programName ++ " help"
  about := "Print this message or the help of the given subcommand(s)"
  commands := []
  operands := [⟨"[COMMAND]...", "Print help for the subcommand(s)"⟩]
  parameters := []

/-- The manual of the program. -/
def programManual : Manual where
  call := programName
  about := "Generate Kotlin/Java mapped-type stubs and member correspondence reports"
  commands := entries.map (fun e => (e.name, e.about)) ++ [("help", helpManual.about)]
  operands := []
  parameters := [configParameter, helpParameter, versionParameter]

/-! ### Calling -/

/-- The manual of a command of the program. -/
def manualOf (name : String) : Option Manual :=
  if name = "help" then some helpManual else (entryNamed name).map Entry.manual

/-- The page that help is asked for; no command has commands below it. -/
def helpOn : List String → Stop
  | [] => .help programManual
  | name :: rest =>
    match manualOf name, rest with
    | none, _ => .refuse (.unknownCommand name)
    | some _, more :: _ => .refuse (.unknownCommand more)
    | some m, [] => .help m

/-- The command that arguments call, given its name. -/
def callEntry (name : String) (arguments : List String) : Except Stop (Given × Command) :=
  match entryNamed name with
  | none => .error (helpOn arguments)
  | some e => do
    let g ← readGiven e.manual arguments
    match e.build g with
    | some command => .ok (g, command)
    | none => .error (.refuse .operandsMissing)

/-- **What the arguments of the program call.** The config file may be named before the command or
among its arguments, and the latter counts. -/
def Invocation.ofArguments (arguments : List String) : Except Stop Invocation := do
  let (r, call) ← Reading.start.words programManual arguments
  match call with
  | some (name, rest) =>
    let (own, command) ← callEntry name rest
    let g ← r.settle
    .ok ⟨own.value? "config" <|> g.value? "config", command⟩
  | none =>
    let g ← r.settle
    if g.settings.isEmpty then .error (.nothing programManual)
    else .error (.refuse (.commandMissing programName))

end TwinTypes.CommandLine
