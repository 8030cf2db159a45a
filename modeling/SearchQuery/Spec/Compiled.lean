import SearchQuery.Command
import SearchQuery.Spec.Parts

/-!
# Compiled queries as documents

The written form of a compiled query, and the options of a search as a
client may write them. A client's options have a default each, and entries
that are not options are passed over.
-/

namespace SearchQuery

/-- A parameter as a document: bytes are a list of numbers. -/
def Parameter.toDocument : Parameter → Document
  | int value => .integer value
  | text value => .text value
  | bytes value => Document.ofList (fun b => .natural b.toNat) value

/-- The parameters as a document. -/
def Parameters.toDocument (params : Parameters) : Document :=
  .record (params.map fun (name, value) => (name, value.toDocument))

namespace SearchOptions

/-- The entries of a search's options. -/
def toEntries (options : SearchOptions) : List (String × Document) := [
    ("return_fields", Document.ofTexts options.returnFields),
    ("offset", .natural options.offset.toNat),
    ("num", .natural options.num.toNat),
    ("dialect", .natural options.dialect.toNat),
    ("sort_by", Document.ofOption SortKey.toDocument options.sortBy),
    ("in_order", .bool options.inOrder),
    ("scorer", Document.ofOption .text options.scorer),
    ("with_scores", .bool options.withScores),
    ("no_content", .bool options.noContent)
  ]

/-- The names of the entries. -/
def names : List String :=
  ["return_fields", "offset", "num", "dialect", "sort_by", "in_order", "scorer", "with_scores",
    "no_content"]

/-- The options of a document. -/
def ofDocument? (d : Document) : Option SearchOptions := do
  let entries ← d.knownEntries? names
  let returnFields ← Document.withDefault entries "return_fields" [] Document.texts?
  let offset ← Document.withDefault entries "offset" 0 Document.count?
  let num ← Document.withDefault entries "num" defaultResults Document.count?
  let dialect ← Document.withDefault entries "dialect" defaultDialect Document.dialect?
  let sortBy ← Document.optional entries "sort_by" SortKey.ofDocument?
  let inOrder ← Document.withDefault entries "in_order" false Document.bool?
  let scorer ← Document.optional entries "scorer" Document.text?
  let withScores ← Document.withDefault entries "with_scores" false Document.bool?
  let noContent ← Document.withDefault entries "no_content" false Document.bool?
  return {
    returnFields, offset, num, dialect, sortBy, inOrder, scorer, withScores, noContent
  }

end SearchOptions

namespace Pipeline

/-- A computed field as a document. -/
def stepDocument (step : ApplyStep) : Document :=
  .record [("expression", .text step.expression), ("alias", .text step.name)]

/-- The entries of a pipeline. -/
def toEntries (pipeline : Pipeline) : List (String × Document) := [
    ("scorer", Document.ofOption .text pipeline.scorer),
    ("add_scores", .bool pipeline.addScores),
    ("load", Document.ofTexts pipeline.load),
    ("apply", Document.ofList stepDocument pipeline.apply),
    ("sort_by", .text pipeline.sortBy),
    ("max", .natural pipeline.max.toNat),
    ("dialect", .natural pipeline.dialect.toNat)
  ]

end Pipeline

/-- A command with its options as a document. -/
def Command.toDocument : Command → Document
  | search options => .record (("command", .text "search") :: options.toEntries)
  | aggregate pipeline => .record (("command", .text "aggregate") :: pipeline.toEntries)

namespace Compiled

/-- The entries of a compiled query. -/
def toEntries (compiled : Compiled) : List (String × Document) := [
    ("query", .text compiled.query),
    ("params", compiled.params.toDocument),
    ("kind", compiled.command.toDocument)
  ]

/-- A compiled query as a document. -/
def toDocument (compiled : Compiled) : Document := .record compiled.toEntries

end Compiled

end SearchQuery
