import SearchQuery.Spec.Defaults
import SearchQuery.Toml.Reader
import SearchQuery.Toml.Writer

/-!
# Configuration

The configuration of the command line is a TOML file, every part of which
may be left out: the defaults of queries, and how much is logged. Tables
and entries that are not known are passed over, but not among the defaults
of queries.
-/

namespace SearchQuery

/-- The configuration of the command line. -/
structure Config where
  defaults : Defaults := {}
  logLevel : String := "info"

namespace Config

/-- What may stand beside the name of stop words: an empty table or list. -/
def isNothing : Document → Bool
  | .record [] => true
  | .list [] => true
  | _ => false

/-- The defaults of a table, or of a list of values in order. -/
def defaults? : Document → Option Defaults
  | .list items => Defaults.ofEntries? isNothing (Defaults.names.zip items)
  | d => Defaults.ofDocument? isNothing d

/-- The log level of a table, or of a list that begins with it. A date has
no level in it. -/
def logLevel? : Document → Option String
  | .record entries => Document.withDefault entries "level" "info" Document.text?
  | .list items => Document.withDefault (["level"].zip items) "level" "info" Document.text?
  | .date => some "info"
  | _ => none

/-- The configuration of a document. -/
def ofDocument? : Document → Option Config
  | .record entries => do
    let defaults ← Document.withDefault entries "query" {} defaults?
    let logLevel ← Document.withDefault entries "logging" "info" logLevel?
    return { defaults, logLevel }
  | _ => none

/-- The configuration of a text. -/
def read? (s : String) : Option Config := do ofDocument? (← Toml.read? s)

/-- The configuration as a document. -/
def toDocument (config : Config) : Document :=
  .record [
    ("query", .record (config.defaults.toEntries .float)),
    ("logging", .record [("level", .text config.logLevel)])
  ]

/-- A configuration file to begin with, which says what the defaults are. -/
def sample : String :=
  String.join <| [
    "# ftquery configuration",
    "",
    "[query]",
    "# Dialect used when a query file does not set one",
    "dialect = 2",
    "# Results returned when a query file does not set num_results",
    "num_results = 10",
    "# Vector weight of hybrid queries (0.0 to 1.0)",
    "alpha = 0.7",
    "# Stopwords removed from hybrid query text: \"none\", \"english\"",
    "# or \x7b custom = [\"a\", \"the\"] \x7d",
    "stopwords = \"english\"",
    "",
    "[logging]",
    "# trace, debug, info, warn or error",
    "level = \"info\""
  ].map (· ++ "\n")

end Config

end SearchQuery
