import TwinTypes.Document.MappedTypes
import TwinTypes.Run.Write

/-!
# Loading

Reading settings and mapped-types documents from files, and finding the config file of a directory.
-/

namespace TwinTypes

/-- The part of the program that reports what is loaded. -/
def configTarget : String :=
  "ktmap.config"

/-- Why settings or pairs could not be loaded. -/
inductive LoadError where
  /-- The file could not be read. -/
  | io (path : String) (source : DiskError)
  /-- The config file is not well-formed, or sets what there is not. -/
  | settings (message : String)
  /-- The mapped-types document is not one. -/
  | pairs (origin message : String)
  deriving DecidableEq, Repr, Inhabited

namespace LoadError

/-- What failed, and below it what made it fail, in words. -/
def chain : LoadError → List String
  | io path source => ["failed to read " ++ path ++ ": " ++ source.message, source.message]
  | settings message => ["failed to parse toml config: " ++ message]
  | pairs origin message => ["invalid mapped types document " ++ origin ++ ": " ++ message]

/-- What failed, in words. -/
def message (e : LoadError) : String :=
  e.chain.headD ""

end LoadError

/-! ### Settings -/

/-- What the environment says. -/
structure Environment where
  /-- The path of the config file. -/
  configPath : Option String
  /-- What is reported, besides what the settings say. -/
  rustLog : Option String
  deriving DecidableEq, Repr, Inhabited

/-- A path in a config file, which is relative to the directory of the file. -/
def resolveAgainst (dir path : String) : String :=
  if Path.isAbsolute path then path else Path.join dir path

/-- The settings with their paths resolved against the directory of the config file. -/
def Config.resolvedAt (c : Config) (path : String) : Config :=
  match Path.parent path with
  | some dir =>
    if dir.isEmpty then c
    else
      { c with
        mappedTypes := resolveAgainst dir c.mappedTypes
        outputDir := resolveAgainst dir c.outputDir
        indexFile := resolveAgainst dir c.indexFile }
  | none => c

/-- **Loads the settings in a config file.** -/
def loadConfig (path : String) : Attempt LoadError Config := do
  let text ← (readText path).orFail (.io path)
  match Config.parse text with
  | .ok c => pure (c.resolvedAt path)
  | .error message => throw (.settings message)

/-- The names of config files, the first one first. -/
def configNames : List String :=
  ["ktmap.toml", ".ktmap.toml"]

/-- The first of some paths that names a file. -/
def firstFile : List String → Program (Option String)
  | [] => pure none
  | path :: rest => do
    if ← isFile path then pure (some path) else firstFile rest

/-- **Finds the config file of a directory**: the one that the environment names, or else the first
one that is there. -/
def discoverConfig (env : Environment) (root : String) : Program (Option String) :=
  match env.configPath with
  | some path => pure (some (Path.join root path))
  | none => firstFile (configNames.map (Path.join root))

/-- **Loads the settings of a directory**, and says from which file; without a file they are the
default ones. -/
def loadForRoot (env : Environment) (root : String) : Attempt LoadError (Config × Option String) :=
  do
    match ← Attempt.always (discoverConfig env root) with
    | none => pure (Config.default, none)
    | some path => do
      let c ← loadConfig path
      pure (c, some path)

/-! ### Pairs -/

/-- The pairs in the text of a mapped-types document. Where the text comes from only labels what is
wrong with it. -/
def pairsFrom (origin text : String) : Except LoadError (List MappingPair) :=
  match parsePairs text with
  | .error message => .error (.pairs origin message)
  | .ok pairs => .ok pairs

/-- **Loads a mapped-types document.** -/
def loadPairs (path : String) : Attempt LoadError (List MappingPair) := do
  let text ← (readText path).orFail (.io path)
  match pairsFrom path text with
  | .error e => throw e
  | .ok pairs => do
    Attempt.always (report ⟨.debug, configTarget, "loaded mapped types",
      [("path", .text path), ("pairs", .number pairs.length)]⟩)
    pure pairs

end TwinTypes
