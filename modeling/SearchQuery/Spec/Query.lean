import SearchQuery.Query.Hybrid
import SearchQuery.Query.Listing
import SearchQuery.Query.MultiVector
import SearchQuery.Query.Nearest
import SearchQuery.Query.Range
import SearchQuery.Spec.Defaults
import SearchQuery.Spec.Filter

/-!
# Query specifications

A query as a file describes it, of one of seven kinds. Nothing in it has
been checked. `QuerySpec.compile` makes the query in the same way as one
that is put together setting by setting: the vector is made first, then
the restriction, and then the query's own settings are checked. The
defaults take the place of what the file leaves out, and of nothing else.
-/

namespace SearchQuery

/-! ## Shared settings -/

/-- Which results to return, as a file says. -/
structure ResultSpec where
  returnFields : List String := []
  numResults : Option UInt64 := none
  offset : UInt64 := 0
  dialect : Option UInt32 := none
  sortBy : Option SortSpec := none
  inOrder : Bool := false
deriving DecidableEq

/-- The results of a file, with the defaults for what it leaves out. -/
def ResultSpec.toResults (defaults : Defaults) (spec : ResultSpec) : Query.Results where
  returnFields := spec.returnFields
  numResults := spec.numResults.getD defaults.numResults
  offset := spec.offset
  dialect := spec.dialect.getD defaults.dialect
  sortBy := spec.sortBy
  inOrder := spec.inOrder

/-- The field and the text of a clause. -/
structure ClauseSpec where
  field : String
  text : String
deriving DecidableEq

/-- A field to search with the weight of a match in it. -/
structure FieldSpec where
  field : String
  weight : Double := Query.WeightedField.plainWeight
deriving DecidableEq

/-! ## Kinds of queries -/

/-- A query for nearest neighbours. -/
structure NearestSpec where
  vector : VectorSpec
  filter : Option RestrictionSpec := none
  textClause : Option ClauseSpec := none
  returnScore : Bool := true
  tuning : Query.Tuning := {}
  results : ResultSpec := {}

/-- A query for vectors within a distance. -/
structure RangeSpec where
  vector : VectorSpec
  filter : Option RestrictionSpec := none
  threshold : Option Double := none
  epsilon : Option Double := none
  normalize : Bool := false
  results : ResultSpec := {}

/-- A query for the words of a text. -/
structure FullTextSpec where
  text : String
  fields : List FieldSpec
  filter : Option RestrictionSpec := none
  stopwords : Stopwords := .none
  scorer : Option String := none
  returnScore : Bool := true
  results : ResultSpec := {}

/-- A query for the documents that pass a restriction. -/
structure ListingSpec where
  filter : Option RestrictionSpec := none
  results : ResultSpec := {}

/-- A query for the number of documents that pass a restriction. -/
structure CountSpec where
  filter : Option RestrictionSpec := none
  dialect : Option UInt32 := none

/-- A query that blends a text with a vector. -/
structure HybridSpec where
  text : String
  textField : String
  vector : VectorSpec
  alpha : Option Double := none
  filter : Option RestrictionSpec := none
  stopwords : Option Stopwords := none
  numResults : Option UInt64 := none
  returnFields : List String := []
  dialect : Option UInt32 := none

/-- A query over several vectors. -/
structure MultiVectorSpec where
  vectors : List VectorSpec
  filter : Option RestrictionSpec := none
  numResults : Option UInt64 := none
  returnFields : List String := []
  dialect : Option UInt32 := none

/-- A query of any kind. -/
inductive QuerySpec where
  | nearest (spec : NearestSpec)
  | range (spec : RangeSpec)
  | fullText (spec : FullTextSpec)
  | listing (spec : ListingSpec)
  | count (spec : CountSpec)
  | hybrid (spec : HybridSpec)
  | multiVector (spec : MultiVectorSpec)

/-! ## Making queries -/

namespace NearestSpec

/-- The query of a specification. -/
def build (defaults : Defaults) (spec : NearestSpec) : Except Invalid Query.Nearest := do
  let vector ← spec.vector.toEmbedding
  let restriction ← RestrictionSpec.orNone spec.filter
  Query.Nearest.Draft.build {
    vector
    restriction
    textClause := spec.textClause.map fun clause => (clause.field, clause.text)
    tuning := spec.tuning
    returnScore := spec.returnScore
    results := spec.results.toResults defaults
  }

end NearestSpec

namespace RangeSpec

/-- The query of a specification. -/
def build (defaults : Defaults) (spec : RangeSpec) : Except Invalid Query.Range := do
  let vector ← spec.vector.toEmbedding
  let restriction ← RestrictionSpec.orNone spec.filter
  Query.Range.Draft.build {
    vector
    restriction
    threshold := spec.threshold.getD Query.Range.defaultThreshold
    epsilon := spec.epsilon
    normalize := spec.normalize
    results := spec.results.toResults defaults
  }

end RangeSpec

namespace FullTextSpec

/-- The weighted fields of a specification: a field that comes again takes
the later weight. -/
def weightedFields (fields : List FieldSpec) : List Query.WeightedField :=
  fields.foldl (fun known f => Query.WeightedField.put f.field f.weight known) []

/-- The query of a specification. -/
def build (defaults : Defaults) (spec : FullTextSpec) : Except Invalid Query.FullText := do
  let restriction ← RestrictionSpec.orNone spec.filter
  Query.FullText.Draft.build {
    text := spec.text
    fields := weightedFields spec.fields
    restriction
    stopwords := spec.stopwords
    scorer := spec.scorer.getD Query.FullText.defaultScorer
    returnScore := spec.returnScore
    results := spec.results.toResults defaults
  }

end FullTextSpec

namespace ListingSpec

/-- The query of a specification. -/
def build (defaults : Defaults) (spec : ListingSpec) : Except Invalid Query.Listing := do
  let restriction ← RestrictionSpec.orNone spec.filter
  Query.Listing.Draft.build { restriction, results := spec.results.toResults defaults }

end ListingSpec

namespace CountSpec

/-- The query of a specification. -/
def build (defaults : Defaults) (spec : CountSpec) : Except Invalid Query.Count := do
  let restriction ← RestrictionSpec.orNone spec.filter
  Query.Count.withDialect (spec.dialect.getD defaults.dialect) { restriction }

end CountSpec

namespace HybridSpec

/-- The query of a specification. -/
def build (defaults : Defaults) (spec : HybridSpec) : Except Invalid Query.Hybrid := do
  let vector ← spec.vector.toEmbedding
  let restriction ← RestrictionSpec.orNone spec.filter
  Query.Hybrid.Draft.build {
    text := spec.text
    textField := spec.textField
    vector
    alpha := spec.alpha.getD defaults.alpha
    restriction
    stopwords := spec.stopwords.getD defaults.stopwords
    numResults := spec.numResults.getD defaults.numResults
    returnFields := spec.returnFields
    dialect := spec.dialect.getD defaults.dialect
  }

end HybridSpec

namespace MultiVectorSpec

/-- The query of a specification. -/
def build (defaults : Defaults) (spec : MultiVectorSpec) : Except Invalid Query.MultiVector := do
  let vectors ← spec.vectors.mapM VectorSpec.toEmbedding
  let restriction ← RestrictionSpec.orNone spec.filter
  Query.MultiVector.Draft.build {
    vectors
    restriction
    numResults := spec.numResults.getD defaults.numResults
    returnFields := spec.returnFields
    dialect := spec.dialect.getD defaults.dialect
  }

end MultiVectorSpec

namespace QuerySpec

/-- The name of a query's kind. -/
def kindName : QuerySpec → String
  | nearest _ => "vector"
  | range _ => "range"
  | fullText _ => "text"
  | listing _ => "filter"
  | count _ => "count"
  | hybrid _ => "hybrid"
  | multiVector _ => "multi_vector"

/-- The query of a specification, ready to be sent. -/
def compile (defaults : Defaults) : QuerySpec → Except Invalid Compiled
  | nearest spec => do return (← spec.build defaults).compile
  | range spec => do return (← spec.build defaults).compile
  | fullText spec => do return (← spec.build defaults).compile
  | listing spec => do return (← spec.build defaults).compile
  | count spec => do return (← spec.build defaults).compile
  | hybrid spec => do return (← spec.build defaults).compile
  | multiVector spec => do return (← spec.build defaults).compile

end QuerySpec

end SearchQuery
