import SearchQuery.Spec.Query

/-!
# Reading query specifications

Each kind of query declares the names of its entries, and the order in
which a list gives their values. Everything in a file is read before any
of it is checked.
-/

namespace SearchQuery

open Document (required withDefault optional)

/-! ## Shared settings -/

namespace ResultSpec

/-- The names of the entries. -/
def names : List String :=
  ["return_fields", "num_results", "offset", "dialect", "sort_by", "in_order"]

/-- The settings among the entries of a query. -/
def ofEntries? (entries : List (String × Document)) : Option ResultSpec := do
  let returnFields ← withDefault entries "return_fields" [] Document.texts?
  let numResults ← optional entries "num_results" Document.count?
  let offset ← withDefault entries "offset" 0 Document.count?
  let dialect ← optional entries "dialect" Document.dialect?
  let sortBy ← optional entries "sort_by" SortSpec.ofDocument?
  let inOrder ← withDefault entries "in_order" false Document.bool?
  return { returnFields, numResults, offset, dialect, sortBy, inOrder }

/-- The entries of the settings. -/
def toEntries (spec : ResultSpec) : List (String × Document) := [
    ("return_fields", Document.ofTexts spec.returnFields),
    ("num_results", Document.ofOption (fun n => .natural n.toNat) spec.numResults),
    ("offset", .natural spec.offset.toNat),
    ("dialect", Document.ofOption (fun n => .natural n.toNat) spec.dialect),
    ("sort_by", Document.ofOption SortSpec.toDocument spec.sortBy),
    ("in_order", .bool spec.inOrder)
  ]

end ResultSpec

namespace ClauseSpec

/-- The names of the entries. -/
def names : List String := ["field", "text"]

/-- The clause of a document. -/
def ofDocument? (d : Document) : Option ClauseSpec := do
  let entries ← d.entries? names
  let field ← required entries "field" Document.text?
  let text ← required entries "text" Document.text?
  return { field, text }

/-- A clause as a document. -/
def toDocument (spec : ClauseSpec) : Document :=
  .record [("field", .text spec.field), ("text", .text spec.text)]

end ClauseSpec

namespace FieldSpec

/-- The names of the entries. -/
def names : List String := ["field", "weight"]

/-- The field of a document. -/
def ofDocument? (d : Document) : Option FieldSpec := do
  let entries ← d.entries? names
  let field ← required entries "field" Document.text?
  let weight ← withDefault entries "weight" Query.WeightedField.plainWeight Document.double?
  return { field, weight }

/-- A field as a document. -/
def toDocument (spec : FieldSpec) : Document :=
  .record [("field", .text spec.field), ("weight", Document.ofDouble spec.weight)]

end FieldSpec

/-- The stop words of a query file. -/
def Stopwords.inFile? (d : Document) : Option Stopwords :=
  Stopwords.ofDocument? Document.isNothing d

/-! ## Tuning -/

namespace TuningSpec

/-- The names of the entries. -/
def names : List String :=
  ["ef_runtime", "search_window_size", "use_search_history", "search_buffer_capacity",
    "hybrid_policy", "batch_size"]

/-- The tuning among the entries of a query. -/
def ofEntries? (entries : List (String × Document)) : Option Query.Tuning := do
  let efRuntime ← optional entries "ef_runtime" Document.count?
  let searchWindowSize ← optional entries "search_window_size" Document.count?
  let useSearchHistory ← optional entries "use_search_history" Keyword.ofDocument?
  let searchBufferCapacity ← optional entries "search_buffer_capacity" Document.count?
  let hybridPolicy ← optional entries "hybrid_policy" Keyword.ofDocument?
  let batchSize ← optional entries "batch_size" Document.count?
  return {
    efRuntime, searchWindowSize, useSearchHistory, searchBufferCapacity, hybridPolicy, batchSize
  }

/-- The entries of the tuning. -/
def toEntries (tuning : Query.Tuning) : List (String × Document) :=
  let count := Document.ofOption fun (n : UInt64) => .natural n.toNat
  [
    ("ef_runtime", count tuning.efRuntime),
    ("search_window_size", count tuning.searchWindowSize),
    ("use_search_history", Document.ofOption Keyword.toDocument tuning.useSearchHistory),
    ("search_buffer_capacity", count tuning.searchBufferCapacity),
    ("hybrid_policy", Document.ofOption Keyword.toDocument tuning.hybridPolicy),
    ("batch_size", count tuning.batchSize)
  ]

end TuningSpec

/-- The restriction among the entries of a query. -/
def RestrictionSpec.ofEntries? (entries : List (String × Document)) :
    Option (Option RestrictionSpec) :=
  optional entries "filter" RestrictionSpec.ofDocument?

/-- The entry of a restriction. -/
def RestrictionSpec.toEntry (spec : Option RestrictionSpec) : String × Document :=
  ("filter", Document.ofOption RestrictionSpec.toDocument spec)

/-- The entry of a count that may be absent. -/
def countEntry (name : String) (count : Option UInt64) : String × Document :=
  (name, Document.ofOption (fun n => .natural n.toNat) count)

/-- The entry of a dialect that may be absent. -/
def dialectEntry (dialect : Option UInt32) : String × Document :=
  ("dialect", Document.ofOption (fun n => .natural n.toNat) dialect)

/-! ## Kinds of queries -/

namespace NearestSpec

/-- The names of the entries. -/
def names : List String :=
  ["vector", "filter", "text_clause", "return_score"] ++ TuningSpec.names ++ ResultSpec.names

/-- The query of a document. -/
def ofDocument? (d : Document) : Option NearestSpec := do
  let entries ← d.entries? names
  let vector ← required entries "vector" VectorSpec.ofDocument?
  let filter ← RestrictionSpec.ofEntries? entries
  let textClause ← optional entries "text_clause" ClauseSpec.ofDocument?
  let returnScore ← withDefault entries "return_score" true Document.bool?
  let tuning ← TuningSpec.ofEntries? entries
  let results ← ResultSpec.ofEntries? entries
  return { vector, filter, textClause, returnScore, tuning, results }

/-- The entries of a query. -/
def toEntries (spec : NearestSpec) : List (String × Document) :=
  [("vector", spec.vector.toDocument),
    RestrictionSpec.toEntry spec.filter,
    ("text_clause", Document.ofOption ClauseSpec.toDocument spec.textClause),
    ("return_score", .bool spec.returnScore)]
    ++ TuningSpec.toEntries spec.tuning ++ spec.results.toEntries

end NearestSpec

namespace RangeSpec

/-- The names of the entries. -/
def names : List String :=
  ["vector", "filter", "distance_threshold", "epsilon", "normalize_vector_distance"]
    ++ ResultSpec.names

/-- The query of a document. -/
def ofDocument? (d : Document) : Option RangeSpec := do
  let entries ← d.entries? names
  let vector ← required entries "vector" VectorSpec.ofDocument?
  let filter ← RestrictionSpec.ofEntries? entries
  let threshold ← optional entries "distance_threshold" Document.double?
  let epsilon ← optional entries "epsilon" Document.double?
  let normalize ← withDefault entries "normalize_vector_distance" false Document.bool?
  let results ← ResultSpec.ofEntries? entries
  return { vector, filter, threshold, epsilon, normalize, results }

/-- The entries of a query. -/
def toEntries (spec : RangeSpec) : List (String × Document) :=
  [("vector", spec.vector.toDocument),
    RestrictionSpec.toEntry spec.filter,
    ("distance_threshold", Document.ofOption Document.ofDouble spec.threshold),
    ("epsilon", Document.ofOption Document.ofDouble spec.epsilon),
    ("normalize_vector_distance", .bool spec.normalize)]
    ++ spec.results.toEntries

end RangeSpec

namespace FullTextSpec

/-- The names of the entries. -/
def names : List String :=
  ["text", "fields", "filter", "stopwords", "scorer", "return_score"] ++ ResultSpec.names

/-- The query of a document. -/
def ofDocument? (d : Document) : Option FullTextSpec := do
  let entries ← d.entries? names
  let text ← required entries "text" Document.text?
  let fields ← required entries "fields" (Document.list? FieldSpec.ofDocument?)
  let filter ← RestrictionSpec.ofEntries? entries
  let stopwords ← withDefault entries "stopwords" .none Stopwords.inFile?
  let scorer ← optional entries "scorer" Document.text?
  let returnScore ← withDefault entries "return_score" true Document.bool?
  let results ← ResultSpec.ofEntries? entries
  return { text, fields, filter, stopwords, scorer, returnScore, results }

/-- The entries of a query. -/
def toEntries (spec : FullTextSpec) : List (String × Document) :=
  [("text", .text spec.text),
    ("fields", Document.ofList FieldSpec.toDocument spec.fields),
    RestrictionSpec.toEntry spec.filter,
    ("stopwords", spec.stopwords.toDocument),
    ("scorer", Document.ofOption .text spec.scorer),
    ("return_score", .bool spec.returnScore)]
    ++ spec.results.toEntries

end FullTextSpec

namespace ListingSpec

/-- The names of the entries. -/
def names : List String := "filter" :: ResultSpec.names

/-- The query of a document. -/
def ofDocument? (d : Document) : Option ListingSpec := do
  let entries ← d.entries? names
  let filter ← RestrictionSpec.ofEntries? entries
  let results ← ResultSpec.ofEntries? entries
  return { filter, results }

/-- The entries of a query. -/
def toEntries (spec : ListingSpec) : List (String × Document) :=
  RestrictionSpec.toEntry spec.filter :: spec.results.toEntries

end ListingSpec

namespace CountSpec

/-- The names of the entries. -/
def names : List String := ["filter", "dialect"]

/-- The query of a document. -/
def ofDocument? (d : Document) : Option CountSpec := do
  let entries ← d.entries? names
  let filter ← RestrictionSpec.ofEntries? entries
  let dialect ← optional entries "dialect" Document.dialect?
  return { filter, dialect }

/-- The entries of a query. -/
def toEntries (spec : CountSpec) : List (String × Document) :=
  [RestrictionSpec.toEntry spec.filter, dialectEntry spec.dialect]

end CountSpec

namespace HybridSpec

/-- The names of the entries. -/
def names : List String :=
  ["text", "text_field", "vector", "alpha", "filter", "stopwords", "num_results",
    "return_fields", "dialect"]

/-- The query of a document. -/
def ofDocument? (d : Document) : Option HybridSpec := do
  let entries ← d.entries? names
  let text ← required entries "text" Document.text?
  let textField ← required entries "text_field" Document.text?
  let vector ← required entries "vector" VectorSpec.ofDocument?
  let alpha ← optional entries "alpha" Document.double?
  let filter ← RestrictionSpec.ofEntries? entries
  let stopwords ← optional entries "stopwords" Stopwords.inFile?
  let numResults ← optional entries "num_results" Document.count?
  let returnFields ← withDefault entries "return_fields" [] Document.texts?
  let dialect ← optional entries "dialect" Document.dialect?
  return { text, textField, vector, alpha, filter, stopwords, numResults, returnFields, dialect }

/-- The entries of a query. -/
def toEntries (spec : HybridSpec) : List (String × Document) :=
  [("text", .text spec.text),
    ("text_field", .text spec.textField),
    ("vector", spec.vector.toDocument),
    ("alpha", Document.ofOption Document.ofDouble spec.alpha),
    RestrictionSpec.toEntry spec.filter,
    ("stopwords", Document.ofOption Stopwords.toDocument spec.stopwords),
    countEntry "num_results" spec.numResults,
    ("return_fields", Document.ofTexts spec.returnFields),
    dialectEntry spec.dialect]

end HybridSpec

namespace MultiVectorSpec

/-- The names of the entries. -/
def names : List String := ["vectors", "filter", "num_results", "return_fields", "dialect"]

/-- The query of a document. -/
def ofDocument? (d : Document) : Option MultiVectorSpec := do
  let entries ← d.entries? names
  let vectors ← required entries "vectors" (Document.list? VectorSpec.ofDocument?)
  let filter ← RestrictionSpec.ofEntries? entries
  let numResults ← optional entries "num_results" Document.count?
  let returnFields ← withDefault entries "return_fields" [] Document.texts?
  let dialect ← optional entries "dialect" Document.dialect?
  return { vectors, filter, numResults, returnFields, dialect }

/-- The entries of a query. -/
def toEntries (spec : MultiVectorSpec) : List (String × Document) :=
  [("vectors", Document.ofList VectorSpec.toDocument spec.vectors),
    RestrictionSpec.toEntry spec.filter,
    countEntry "num_results" spec.numResults,
    ("return_fields", Document.ofTexts spec.returnFields),
    dialectEntry spec.dialect]

end MultiVectorSpec

namespace QuerySpec

/-- The query of a kind, from the document without its kind. -/
def ofKind? (kind : String) (d : Document) : Option QuerySpec :=
  if kind == "vector" then (NearestSpec.ofDocument? d).map nearest
  else if kind == "range" then (RangeSpec.ofDocument? d).map range
  else if kind == "text" then (FullTextSpec.ofDocument? d).map fullText
  else if kind == "filter" then (ListingSpec.ofDocument? d).map listing
  else if kind == "count" then (CountSpec.ofDocument? d).map count
  else if kind == "hybrid" then (HybridSpec.ofDocument? d).map hybrid
  else if kind == "multi_vector" then (MultiVectorSpec.ofDocument? d).map multiVector
  else none

/-- The query of a document, whose `type` names its kind. -/
def ofDocument? (d : Document) : Option QuerySpec := do
  let (kind, rest) ← d.typed?
  ofKind? (← kind.text?) rest

/-- The entries of a query, without its kind. -/
def toEntries : QuerySpec → List (String × Document)
  | nearest spec => spec.toEntries
  | range spec => spec.toEntries
  | fullText spec => spec.toEntries
  | listing spec => spec.toEntries
  | count spec => spec.toEntries
  | hybrid spec => spec.toEntries
  | multiVector spec => spec.toEntries

/-- A query as a document. -/
def toDocument (spec : QuerySpec) : Document := Document.ofKind spec.kindName spec.toEntries

end QuerySpec

end SearchQuery
