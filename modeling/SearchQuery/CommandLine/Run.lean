import SearchQuery.CommandLine.Arguments
import SearchQuery.CommandLine.Shell
import SearchQuery.Config
import SearchQuery.Json.Reader
import SearchQuery.Json.Writer
import SearchQuery.Spec.Compiled
import SearchQuery.Spec.Reading

/-!
# Carrying out a request

A request is answered from the files that it names, given as a function
from paths to what stands there. The configuration is read before anything
else, also where the task does not need it. What fails is reported with
what the program was doing; a query that is refused is reported with its
cause.
-/

namespace SearchQuery

namespace QuerySpec

/-- The query of a JSON text. -/
def ofJson? (s : String) : Option QuerySpec := do ofDocument? (← Json.readSound? s)

/-- The query of a TOML text. -/
def ofToml? (s : String) : Option QuerySpec := do ofDocument? (← Toml.read? s)

end QuerySpec

namespace CommandLine

/-- What a run of the program leaves. -/
structure Outcome where
  exitCode : UInt8
  output : String
  /-- The report of what failed. -/
  report : Option String

/-- What stands at a path. -/
inductive File where
  | absent
  /-- Something that is no text, such as a directory. -/
  | unreadable
  | text (content : String)
deriving DecidableEq, Repr

/-- The text of a file that has one. -/
def File.text? : File → Option String
  | text content => some content
  | _ => none

/-- What the program runs in. -/
structure Surroundings where
  /-- What stands at each path. -/
  file : String → File
  /-- The path of the configuration file, if it is known. -/
  configPath : Option String

/-- What a task can fail at. -/
inductive Failure where
  | configFile (path : String)
  | config
  | reading (path : String)
  | parsing (path : String)
  | query (path : String) (cause : QueryError)

/-- The report of a failure, its causes numbered from the outermost. -/
def Failure.report : Failure → String
  | configFile path => "Error: Failed to load config from " ++ path
  | config => "Error: Failed to load config"
  | reading path => "Error: Failed to read " ++ path
  | parsing path => "Error: Failed to parse " ++ path
  | query path cause =>
    "Error: Invalid query in " ++ path ++ "\n\nCaused by:\n    0: " ++ cause.message
      ++ "\n    1: " ++ cause.cause

/-! ## Paths -/

/-- The parts of a path between slashes, without those that stay in
place. -/
def pathParts (path : String) : List (List Char) :=
  ((path.toList.splitBy fun c d => c != '/' && d != '/').filter fun part =>
    part != ['/'] && part != ['.'])

/-- What stands after the last point of a file's name. A point that begins
the name does not count. -/
def extension? (path : String) : Option (List Char) := do
  let name ← (pathParts path).getLast?
  let tail := name.reverse.takeWhile (· != '.')
  if name == ['.', '.'] || name.length ≤ tail.length + 1 then none else some tail.reverse

/-- A file holds JSON if its extension says so, in any case. -/
def isJson (path : String) : Bool :=
  match extension? path with
  | some tail => Text.sameLetters (String.ofList tail) "json"
  | none => false

/-! ## Tasks -/

/-- The configuration of a file. -/
def configOf? (file : File) : Option Config := do Config.read? (← file.text?)

/-- The configuration of a file that was named, of the usual file, or the
one that no file says anything about. Only the usual file may be absent. -/
def loadConfig (s : Surroundings) : Option String → Except Failure Config
  | some path =>
    match configOf? (s.file path) with
    | some config => .ok config
    | none => .error (.configFile path)
  | none =>
    match (s.configPath.map s.file).getD .absent with
    | .absent => .ok {}
    | file =>
      match configOf? file with
      | some config => .ok config
      | none => .error .config

/-- The query of a file. -/
def loadQuery (s : Surroundings) (path : String) : Except Failure QuerySpec :=
  match (s.file path).text? with
  | none => .error (.reading path)
  | some text =>
    match if isJson path then QuerySpec.ofJson? text else QuerySpec.ofToml? text with
    | some spec => .ok spec
    | none => .error (.parsing path)

/-- A parameter as a line of text. -/
def paramLine (param : String × Parameter) : String :=
  "  $" ++ param.1 ++ " = " ++ param.2.toArgument.display ++ "\n"

/-- A compiled query as text. -/
def compiledText (index : String) (compiled : Compiled) : String :=
  "Query:   " ++ compiled.query ++ "\n"
    ++ (if compiled.params.isEmpty then ""
      else "Params:\n" ++ String.join (compiled.params.map paramLine))
    ++ "Command: " ++ Shell.commandLine index compiled ++ "\n"

/-- A compiled query as a document. -/
def compiledDocument (kind index : String) (compiled : Compiled) : Document :=
  .record <|
    [("query_type", .text kind), ("command", .text compiled.command.name),
      ("index", .text index)] ++ compiled.toEntries

/-- A document as JSON, on lines of its own. -/
def jsonLines (d : Document) : String := Json.pretty 0 d ++ "\n"

/-- The output of a task. -/
def perform (s : Surroundings) (config : Config) (format : OutputFormat) :
    Task → Except Failure String
  | .compile file index => do
    let spec ← loadQuery s file
    match spec.compile config.defaults with
    | .error cause => throw (.query file (.validation cause))
    | .ok compiled =>
      match format with
      | .text => return compiledText index compiled
      | .json => return jsonLines (compiledDocument spec.kindName index compiled)
  | .escape text tag => return (if tag then Escape.tag text else Escape.text text) ++ "\n"
  | .configShow =>
    match format with
    | .text => return Toml.write config.toDocument ++ "\n"
    | .json => return jsonLines config.toDocument
  | .configInit => return Config.sample ++ "\n"
  | .configPath => return s.configPath.getD "Could not determine config directory" ++ "\n"

/-- The output of a request. -/
def answer (s : Surroundings) (request : Request) : Except Failure String := do
  let config ← loadConfig s request.config
  perform s config request.format request.task

/-- What the version is asked for. -/
def versionText : String := "ftquery 0.1.0\n"

/-- How the program is used. -/
def helpText : String :=
  "Compile declarative query files into RediSearch commands\n\n"
    ++ "Usage: ftquery [OPTIONS] <COMMAND>\n\n"
    ++ "Commands:\n  compile  Compile a query file\n"
    ++ "  escape   Escape a value for use in a query string\n"
    ++ "  config   Manage configuration\n"

/-- A run of the program. -/
def run (s : Surroundings) (args : List String) : Outcome :=
  match parse args with
  | .version => ⟨0, versionText, none⟩
  | .help => ⟨0, helpText, none⟩
  | .misuse => ⟨2, "", none⟩
  | .request request =>
    match answer s request with
    | .ok output => ⟨0, output, none⟩
    | .error failure => ⟨1, "", some failure.report⟩

end CommandLine

end SearchQuery
