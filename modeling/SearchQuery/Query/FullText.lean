import SearchQuery.Query.Settings

/-!
# Full text

A query for the words of a text in one field or several. The fields form
an ordered map: a field that is given again keeps its place and takes the
new weight. A weight of one is not written.
-/

namespace SearchQuery.Query

/-- A field to search, with the weight of a match in it. -/
structure WeightedField where
  field : String
  weight : Double
deriving DecidableEq

namespace WeightedField

/-- The weight of a field that was given none. -/
def plainWeight : Double := Binary.ofInt 1

/-- The fields with the weight of one set. -/
def put (field : String) (weight : Double) : List WeightedField → List WeightedField
  | [] => [⟨field, weight⟩]
  | other :: rest =>
    if other.field == field then ⟨field, weight⟩ :: rest else other :: put field weight rest

/-- A field has a name and a positive weight. -/
def check (f : WeightedField) : Except Invalid Unit := do
  requireName "text field" f.field
  if !(f.weight.isFinite && f.weight.isPositive) then
    throw (.outOfRange "field weight" (.fieldWeight f.field f.weight))

/-- Every field has a name and a positive weight. -/
def checkAll : List WeightedField → Except Invalid Unit
  | [] => .ok ()
  | f :: rest => do
    f.check
    checkAll rest

/-- The words in one field, with the weight unless it is one. -/
def render (words : List String) (f : WeightedField) : String :=
  let clause := TextClause.render ⟨f.field, words⟩
  if f.weight.eq plainWeight then clause
  else clause ++ " => \x7b $weight: " ++ Double.literal f.weight ++ " \x7d"

end WeightedField

/-- A query for the words of a text. -/
structure FullText where
  /-- The text as it was given. -/
  text : String
  words : List String
  fields : List WeightedField
  restriction : Restriction
  options : SearchOptions

namespace FullText

/-- The text scorer unless told. -/
def defaultScorer : String := "BM25STD"

/-- The settings of a query, unchecked. -/
structure Draft where
  text : String
  fields : List WeightedField := []
  restriction : Restriction := .none
  stopwords : Stopwords := .none
  scorer : String := defaultScorer
  returnScore : Bool := true
  results : Results := {}

/-- A change to a draft. -/
inductive Setting where
  | result (setting : ResultSetting)
  | restriction (restriction : Restriction)
  | field (field : String) (weight : Double)
  | stopwords (stopwords : Stopwords)
  | scorer (scorer : String)
  | returnScore (on : Bool)

namespace Draft

/-- The draft with one setting changed. -/
def set (draft : Draft) : Setting → Draft
  | .result setting => { draft with results := draft.results.set setting }
  | .restriction restriction => { draft with restriction }
  | .field field weight => { draft with fields := WeightedField.put field weight draft.fields }
  | .stopwords stopwords => { draft with stopwords }
  | .scorer scorer => { draft with scorer }
  | .returnScore on => { draft with returnScore := on }

/-- The query of a draft, once its settings are checked. -/
def build (draft : Draft) : Except Invalid FullText := do
  if draft.fields.isEmpty then
    throw (.missingValue "text field")
  WeightedField.checkAll draft.fields
  requireName "scorer" draft.scorer
  let words ← TextClause.wordsOf draft.stopwords draft.text
  let options ← draft.results.check none
  return {
    text := draft.text
    words
    fields := draft.fields
    restriction := draft.restriction
    options := { options with scorer := some draft.scorer, withScores := draft.returnScore }
  }

end Draft

/-- The words in the fields: one clause alone, several as alternatives. -/
def clauses (query : FullText) : String :=
  match query.fields.map (WeightedField.render query.words) with
  | [clause] => clause
  | clauses => "(" ++ " | ".intercalate clauses ++ ")"

/-- The query in the engine's syntax. -/
def queryString (query : FullText) : String :=
  if query.restriction.isMatchAll then query.clauses
  else query.clauses ++ " AND " ++ query.restriction.build

/-- The query, ready to be sent. -/
def compile (query : FullText) : Compiled := ⟨query.queryString, [], .search query.options⟩

end FullText

end SearchQuery.Query
