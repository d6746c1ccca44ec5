import TwinTypes.CommandLine.Command
import TwinTypes.Run.Index
import TwinTypes.Run.Load

/-!
# Carrying out commands

`runArguments` is the whole program: it reads the arguments, carries out the command that they call
and gives the exit code, which is 0 for success and 2 for any failure. Documents and the names of
what was written go to the standard output; what went wrong goes to the standard error, after the
events reported on the way.
-/

namespace TwinTypes

open CommandLine (Command Invocation Stop)

/-! ### Failures -/

/-- Why a command failed. -/
inductive CommandError where
  /-- The settings could not be loaded; the path is there if the arguments name the file. -/
  | settings (path : Option String) (source : LoadError)
  /-- The mapped-types document could not be loaded. -/
  | document (path : String) (source : LoadError)
  /-- The files of some pair could not be written. -/
  | generation (source : GenError)
  /-- The directory of the pairs could not be listed. -/
  | scan (path : String) (source : GenError)
  /-- The index could not be written. -/
  | index (path : String) (source : GenError)
  deriving DecidableEq, Repr, Inhabited

namespace CommandError

/-- What failed, and below it what made it fail, in words. -/
def chain : CommandError → List String
  | settings (some path) source => ("failed to load config " ++ path) :: source.chain
  | settings none source => "failed to load config" :: source.chain
  | document path source =>
    ("failed to load mapped types from " ++ path
      ++ " (pass --builtin to use the documented list)") :: source.chain
  | generation source => "generation aborted" :: source.chain
  | scan path source => ("failed to scan " ++ path) :: source.chain
  | index path source => ("failed to write " ++ path) :: source.chain

/-- Why a command failed, in words. -/
def message (e : CommandError) : String :=
  String.intercalate ": " e.chain

end CommandError

/-! ### Documents as JSON -/

/-- Writes a document as JSON. -/
def printJson (v : Value) : Program Unit :=
  printLine (Data.prettyJson v)

/-- The report on a pair with both stubs. -/
def inspection (artifacts : Artifacts) (report : Report) : Value :=
  .fields [("java_stub", .text artifacts.javaStub), ("kotlin_stub", .text artifacts.kotlinStub),
    ("report", report.toValue)]

/-! ### Commands -/

/-- The part of the program that carries out commands. -/
def commandTarget : String :=
  "ktmap.cli"

/-- Makes the index of a directory anew. -/
def rebuildIndex (outputDir indexFile : String) : Attempt CommandError MappingIndex := do
  let index ← (buildIndex outputDir).orFail (.scan outputDir)
  (writeIndex indexFile index).orFail (.index indexFile)
  Attempt.always (report ⟨.info, commandTarget, "wrote mapped-types index",
    [("mappings", .number index.entries.length), ("path", .text indexFile)]⟩)
  pure index

/-- The pairs for which files are to be written. -/
def requestedPairs (input : Option String) (builtin : Bool) (config : Config) :
    Attempt CommandError (List MappingPair) :=
  if builtin then pure Builtin.pairs
  else
    let path := input.getD config.mappedTypes
    (loadPairs path).orFail (.document path)

/-- Names a pair whose files have been written, unless there is to be a summary of them all. -/
def notePair (json : Bool) (pair : GeneratedPair) : Program Unit := do
  announce pair
  if json then pure ()
  else printLine ("Generated mapping for " ++ pair.kotlin ++ " <-> " ++ pair.java)

/-- Says what has been generated. -/
def printSummary (json : Bool) (summary : Summary) : Program Unit :=
  if json then printJson summary.toValue
  else do
    printLine ""
    printLine ("All mappings generated in " ++ summary.outputDir ++ "/")

/-- Writes the files of every pair. -/
def runGenerate (config : Config) (input : Option String) (builtin : Bool) (output : Option String)
    (index json : Bool) : Attempt CommandError Unit := do
  let pairs ← requestedPairs input builtin config
  let outputDir := output.getD config.outputDir
  let summary ← (generate Registry.builtin pairs outputDir (notePair json)).orFail .generation
  if index then
    let _ ← rebuildIndex outputDir config.indexFile
  Attempt.always (printSummary json summary)

/-- Makes the index anew. -/
def runIndex (config : Config) (output indexFile : Option String) (json : Bool) :
    Attempt CommandError Unit := do
  let outputDir := output.getD config.outputDir
  let indexFile := indexFile.getD config.indexFile
  let index ← rebuildIndex outputDir indexFile
  Attempt.always (
    if json then printJson index.toValue
    else printLine ("Indexed " ++ toString index.entries.length ++ " mappings from " ++ outputDir
      ++ "/ into " ++ indexFile))

/-- Shows the report on a pair. -/
def runInspect (pair : MappingPair) (stubs json : Bool) : Program Unit :=
  let artifacts := renderPair Registry.builtin pair
  let found := Registry.builtin.infer pair.kotlin pair.java
  match json, stubs with
  | true, true => printJson (inspection artifacts found)
  | true, false => printJson found.toValue
  | false, true => do
    printLine artifacts.javaStub
    printLine ""
    printLine artifacts.kotlinStub
    printLine ""
    print artifacts.details
  | false, false => print artifacts.details

/-- Shows the mapped-types document of the built-in pairs. -/
def runPairs (json : Bool) : Program Unit :=
  if json then printJson (mappedTypesDocument Builtin.pairs) else print (pairsText Builtin.pairs)

/-- Carries out a command under some settings. -/
def runCommand (config : Config) : Command → Attempt CommandError Unit
  | .generate input builtin output index json => runGenerate config input builtin output index json
  | .index output indexFile json => runIndex config output indexFile json
  | .inspect kotlin java stubs json => Attempt.always (runInspect ⟨kotlin, java⟩ stubs json)
  | .pairs json => Attempt.always (runPairs json)

/-! ### The whole program -/

/-- Loads the settings: those of the file that the arguments name, or else those of the working
directory. -/
def loadSettings (env : Environment) (path : Option String) :
    Attempt CommandError (Config × Option String) :=
  match path with
  | some path => do
    let config ← (loadConfig path).orFail (.settings (some path))
    pure (config, some path)
  | none => (loadForRoot env ".").orFail (.settings none)

/-- Reports from which file the settings are. -/
def reportSettings : Option String → Program Unit
  | some path => report ⟨.debug, commandTarget, "using config file", [("path", .text path)]⟩
  | none => pure ()

/-- Loads the settings and carries out a command under them. Events are reported from the moment
that the settings say how. -/
def runInvocation (env : Environment) (invocation : Invocation) : Attempt CommandError Unit := do
  let (config, path) ← loadSettings env invocation.configPath
  Attempt.always (Program.request (.startLog (.of config.logging env.rustLog)))
  Attempt.always (report ⟨.debug, configTarget, "tracing initialized",
    [("level", .text config.logging.level)]⟩)
  Attempt.always (reportSettings path)
  runCommand config invocation.command

/-- Writes on the standard error. -/
def complain (text : String) : Program Unit :=
  .request (.complain text)

/-- The exit code of a success. -/
def successCode : Nat :=
  0

/-- The exit code of a failure. -/
def failureCode : Nat :=
  2

/-- Does what is to be done instead of a command, and gives the exit code. -/
def runStop : Stop → Program Nat
  | .help m => do
    print m.page
    pure successCode
  | .version => do
    printLine (CommandLine.programName ++ " " ++ CommandLine.version)
    pure successCode
  | .nothing m => do
    complain m.page
    pure failureCode
  | .refuse e => do
    complain ("error: " ++ e.message ++ "\n\nFor more information, try '--help'.\n")
    pure failureCode

/-- **The program**, given its environment and its arguments. Gives the exit code. -/
def runArguments (env : Environment) (arguments : List String) : Program Nat :=
  match Invocation.ofArguments arguments with
  | .error stop => runStop stop
  | .ok invocation => do
    match ← (runInvocation env invocation).run with
    | .ok _ => pure successCode
    | .error e => do
      complain (e.message ++ "\n")
      pure failureCode

end TwinTypes
