import Groupwise.Compilation
import Groupwise.CommandLine.Folder
import Groupwise.CommandLine.Usage
import Groupwise.Configuration.Loading
import Groupwise.Evaluation.Report

/-!
# The programs

One program compiles a query and prints its commands. The other one has commands of its own: to
compile, to show how a text is parsed, to write out results, and to make a settings file.
-/
namespace Groupwise.CommandLine

structure Surroundings (M : Type → Type) where
  /-- The text of a file that can be read. -/
  read? : String → M (Option String)
  /-- Write a file; this may fail. -/
  write : String → String → M Bool
  makeFolders : String → M Bool
  input? : M (Option String)
  environment : String → M (Option String)
  /-- Where the user keeps settings. -/
  settingsFolder? : M (Option String)
  now : M Timestamp

structure Outcome where
  code : Nat
  output : String := ""
  deriving Repr, DecidableEq, Inhabited

variable {M : Type → Type} [Monad M]

inductive Failure where
  /-- Something cannot be had, or makes no sense. -/
  | refused
  /-- The program stopped in the middle of a computation. -/
  | brokenOff
  deriving Repr, DecidableEq, Inhabited

def Failure.code : Failure → Nat
  | .refused => 1
  | .brokenOff => 101

abbrev Run (M : Type → Type) := ExceptT Failure M

def give? {α : Type} : Option α → Run M α
  | some value => pure value
  | none => throw .refused

/-- What the surroundings may have. -/
def ask? {α : Type} (question : M (Option α)) : Run M α := do
  give? (← ExceptT.lift question)

def ensure (success : M Bool) : Run M Unit := do
  if ← ExceptT.lift success then pure () else throw .refused

/-! ## Configuration and catalog -/

/-- Override a configuration by the variables that are set. -/
def overridden (s : Surroundings M) (c : Configuration) : M Configuration := do
  let values ← Configuration.variableNames.mapM fun name => do pure (name, ← s.environment name)
  pure (c.override fun name => (values.find? (·.1 == name)).bind (·.2))

def loadFile (s : Surroundings M) (path : String) : Run M Configuration := do
  let c ← give? (Configuration.ofToml? (← ask? (s.read? path)))
  ExceptT.lift (overridden s c)

/-- The first settings file that can be loaded. -/
def firstConfiguration (s : Surroundings M) : List String → M (Option Configuration)
  | [] => pure none
  | path :: rest => do
    match ← (loadFile s path).run with
    | .ok c => pure (some c)
    | .error _ => firstConfiguration s rest

def loadConfiguration (s : Surroundings M) : Option String → Run M Configuration
  | some path => loadFile s path
  | none => ExceptT.lift do
    let user := (← s.settingsFolder?).map (· ++ "/jql/config.toml")
    match ← firstConfiguration s (user.toList ++ ["/etc/jql/config.toml", "./jql.toml"]) with
    | some c => pure c
    | none => overridden s {}

def loadCatalog (s : Surroundings M) (path : String) : Run M Catalog := do
  give? (Catalog.ofFile? path (← ask? (s.read? path)))

/-- The catalog from a file that was named, or from where the configuration says. -/
def chooseCatalog (s : Surroundings M) (location : CatalogLocation) (path : Option String) :
    Run M Catalog :=
  match path, location.url, location.path with
  | some path, _, _ => loadCatalog s path
  | none, some _, _ => give? none
  | none, none, some path => loadCatalog s path
  | none, none, none => pure {}

/-! ## Compiling -/

/-- The text that is meant by an argument: a dash stands for the standard input. -/
def inputText (s : Surroundings M) (argument : String) : Run M String :=
  if argument == "-" then ask? s.input? else pure argument

/-- The text that is meant by an argument; the standard input must not be blank. -/
def inputOrArgument (s : Surroundings M) (argument : String) : Run M String := do
  let text ← inputText s argument
  if argument == "-" && (Text.trim text.toList).isEmpty then give? none else pure text

def compileQuery (s : Surroundings M) (settings : Settings) (catalog : Catalog) (query : String) :
    Run M Compiled := do
  match Query.compileText catalog settings (← ExceptT.lift s.now) query with
  | .ok compiled => pure compiled
  | .error (.compile .spanTooLong) => throw .brokenOff
  | .error _ => throw .refused

/-- A number at the right of a column. -/
def atRight (width : Nat) (text : String) : String :=
  String.ofList (List.replicate (width - text.length) ' ') ++ text

def warningLines (warnings : List String) : List String :=
  if warnings.isEmpty then [] else ["", "Warnings:"] ++ warnings.map ("  " ++ ·)

def sourceLine (s : Source) : String :=
  let shown (t : Option Timestamp) := (t.map (·.write)).getD "-"
  "Dataset: " ++ s.dataset ++ " [" ++ shown s.start ++ " .. " ++ shown s.finish ++ ")"

/-- A compiled query for the eye. -/
def overview (c : Compiled) : String :=
  let row (number name : String) := atRight 3 number ++ "  " ++ name
  let rows := c.commands.zipIdx.map fun (command, i) => row (toString i) command.name
  "\n".intercalate ([row "#" "Command", String.ofList (List.replicate 40 '-')] ++ rows ++
    warningLines c.warnings ++ [""] ++ c.sources.map sourceLine ++
    (c.rowLimit.map fun n : Nat => "Row limit: " ++ toString n).toList ++
    ["Cache file: " ++ c.cacheKey.fileName]) ++ "\n"

/-! ## The settings and commands -/

def configSetting : Setting where
  name := "config"
  value := some "CONFIG"
  help := "Config file (default: search the usual locations)"

def catalogSetting : Setting where
  name := "catalog"
  letter := some 'c'
  value := some "CATALOG"
  help := "Dataset metadata file, overrides the configured catalog"

def addressSetting : Setting where
  name := "api-url"
  value := some "API_URL"
  help := "API server URL"
  default := some "http://localhost:8040"
  mayBeEmpty := true

def formatSetting : Setting where
  name := "format"
  letter := some 'f'
  value := some "FORMAT"
  help := "Output format"
  default := some "table"
  choices := ["table", "json"]

def compilerUsage : Usage where
  name := "jql"
  about := "Compile a JQL query into engine commands"
  settings := [catalogSetting, configSetting,
    { name := "compact", help := "Print compact JSON" }]
  operand := some { name := "QUERY", help := "Query text, or `-` to read it from stdin" }

def toolUsage : Usage where
  name := "jql-cli"
  about := "Compile and inspect JQL queries"
  settings := [addressSetting, configSetting, formatSetting]

def compileUsage : Usage where
  name := "compile"
  about := "Compile a query against a catalog"
  settings := [addressSetting, catalogSetting, configSetting, formatSetting]
  operand := some { name := "QUERY", help := "Query text, or `-` for stdin" }

def parseUsage : Usage where
  name := "parse"
  about := "Print the syntax tree of a query, doc metric or doc filter"
  settings := [addressSetting,
    { name := "target", letter := some 't', value := some "TARGET", default := some "query"
      choices := ["query", "metric", "filter"] },
    configSetting, formatSetting]
  operand := some { name := "TEXT", help := "Text to parse, or `-` for stdin" }

def renderUsage : Usage where
  name := "render"
  about := "Render result rows (`[\x7b\"keys\": [...], \"stats\": [...]\x7d]`)"
  settings := [addressSetting,
    { name := "output-format", letter := some 'o', value := some "OUTPUT_FORMAT"
      default := some "tsv", choices := ["tsv", "json"] },
    configSetting,
    { name := "output", value := some "OUTPUT", help := "Output file (default: stdout)" },
    formatSetting]
  operand := some {
    name := "INPUT", help := "JSON rows file (default: stdin)", isRequired := false
    mayBeEmpty := false }

def configUsage : Usage where
  name := "config"
  about := "Generate default config file"
  settings := [addressSetting,
    { name := "output", letter := some 'o', value := some "OUTPUT"
      help := "Output path (default: stdout)" },
    configSetting, formatSetting]

def remoteUsage : Usage where
  name := "remote"
  about := "Compile through a running API server"
  settings := [addressSetting, configSetting, formatSetting]
  operand := some { name := "QUERY", help := "Query text, or `-` for stdin" }

def toolCommands : List Usage := [compileUsage, parseUsage, renderUsage, configUsage, remoteUsage]

/-! ## Running -/

def runCompile (s : Surroundings M) (c : Configuration) (g : Given) : Run M String := do
  let query ← inputOrArgument s (g.operand.getD "")
  let catalog ← chooseCatalog s c.catalog (g.find? "catalog")
  let compiled ← compileQuery s c.compile catalog query
  pure (if g.find? "format" == some "json" then compiled.document.indented "" ++ "\n"
    else overview compiled)

def runParse (s : Surroundings M) (g : Given) : Run M String := do
  let text ← inputOrArgument s (g.operand.getD "")
  let tree ← give? (match (g.find? "target").getD "query" with
    | "metric" => (Query.DocMetric.parse text).toOption.map (·.outline)
    | "filter" => (Query.DocFilter.parse text).toOption.map (·.outline)
    | _ => (Query.parse text).toOption.map (·.outline))
  pure (tree.indented "" ++ "\n")

def runRender (s : Surroundings M) (g : Given) : Run M String := do
  let text ← match g.operand with
    | some path => ask? (s.read? path)
    | none => inputOrArgument s "-"
  let rows ← give? (Evaluation.readRows? text)
  let isDocument := g.find? "output-format" == some "json"
  let written := if isDocument then Evaluation.writeDocument rows else Evaluation.writeLines rows
  match g.find? "output" with
  | some path => do
    ensure (s.write path written)
    pure ""
  | none => pure (if isDocument then written ++ "\n" else written)

def parentPath (path : String) : String :=
  String.ofList (((path.toList.reverse.dropWhile (· ≠ '/')).dropWhile (· = '/')).reverse)

def runConfig (s : Surroundings M) (g : Given) : Run M String :=
  match g.find? "output" with
  | some path => do
    ensure (s.makeFolders (parentPath path))
    ensure (s.write path Configuration.template)
    pure ("Config written to " ++ Text.quoted path ++ "\n")
  | none => pure Configuration.template

/-- Run a command. Nothing is sent over a network. -/
def runCommand (s : Surroundings M) (c : Configuration) (name : String) (g : Given) :
    Run M String :=
  match name with
  | "compile" => runCompile s c g
  | "parse" => runParse s g
  | "render" => runRender s g
  | "config" => runConfig s g
  | _ => give? none

def finish (s : Surroundings M) (g : Given) (body : Configuration → Run M String) : M Outcome := do
  let output ← (do body (← loadConfiguration s (g.find? "config")) : Run M String).run
  pure (match output with
    | .ok output => { code := 0, output }
    | .error failure => { code := failure.code })

/-- The end of a run that does not come to pass. -/
def Stop.outcome (program : String) (help : String) : Stop → Outcome
  | .misuse => { code := 2 }
  | .help => { code := 0, output := help }
  | .version => { code := 0, output := program ++ " " ++ Groupwise.version ++ "\n" }

def runCompiler (s : Surroundings M) (arguments : List String) : M Outcome :=
  match (do compilerUsage.complete (← compilerUsage.scan true false {} arguments).1) with
  | .error stop => pure (stop.outcome compilerUsage.name (compilerUsage.helpText none []))
  | .ok g => finish s g fun c => do
    let query ← inputText s (g.operand.getD "")
    let catalog ← chooseCatalog s c.catalog (g.find? "catalog")
    let compiled ← compileQuery s c.compile catalog query
    pure ((if (g.find? "compact").isSome then compiled.document.compact
      else compiled.document.indented "") ++ "\n")

/-- Run a command of the program that has them, with the settings in front of the command. -/
def runToolCommand (s : Surroundings M) (before : Given) (u : Usage) (arguments : List String) :
    M Outcome :=
  match (do u.complete (← u.scan false false {} arguments).1) with
  | .error stop => pure (stop.outcome u.name (u.helpText (some toolUsage.name) []))
  | .ok g =>
    let g := { g with settings := g.settings ++ before.settings }
    finish s g fun c => runCommand s c u.name g

/-- Print the help for a command, which has no commands of its own. -/
def showHelp : List String → Outcome
  | [] => { code := 0, output := toolUsage.helpText none toolCommands }
  | [name] =>
    match toolCommands.find? (·.name == name) with
    | some u => { code := 0, output := u.helpText (some toolUsage.name) [] }
    | none => { code := 2 }
  | _ => { code := 2 }

def runTool (s : Surroundings M) (arguments : List String) : M Outcome :=
  match toolUsage.scan true true {} arguments with
  | .error stop => pure (stop.outcome toolUsage.name (toolUsage.helpText none toolCommands))
  | .ok (_, none) => pure { code := 2 }
  | .ok (before, some (name, rest)) =>
    match toolCommands.find? (·.name == name) with
    | some u => runToolCommand s before u rest
    | none => pure (if name == "help" then showHelp rest else { code := 2 })

/-! ## Runs in a folder -/

/-- A run sees a folder, a standard input and a moment, and no variables. -/
def inFolder (input : String) (now : Timestamp) : Surroundings (StateM Folder) where
  read? path := do pure ((← get).read? path)
  write path text := modifyGet fun f =>
    match f.write? path text with
    | some f => (true, f)
    | none => (false, f)
  makeFolders path := modifyGet fun f =>
    match f.makeFolders? path with
    | some f => (true, f)
    | none => (false, f)
  input? := pure (some input)
  environment _ := pure none
  settingsFolder? := pure (some ".")
  now := pure now

end Groupwise.CommandLine
