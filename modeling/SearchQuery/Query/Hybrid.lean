import SearchQuery.Embedding
import SearchQuery.Query.FullText

/-!
# Text and vector blended

A hybrid query finds the nearest neighbours of a vector and ranks them by
a blend of that similarity with the score of a text. The text is optional
to match, so a document without its words is ranked and not left out.
-/

namespace SearchQuery.Query

/-- A query that blends a text with a vector. -/
structure Hybrid where
  /-- The text as it was given. -/
  text : String
  textField : String
  words : List String
  vector : Embedding
  /-- The weight of the similarity; the text score has the rest. -/
  alpha : Double
  restriction : Restriction
  numResults : UInt64
  returnFields : List String
  dialect : UInt32

namespace Hybrid

/-- The weight of the similarity unless told. -/
def defaultAlpha : Double := Decimal.toBinary ⟨false, 7, -1⟩

/-- The computed field of the similarity. -/
def similarityAlias : String := "vector_similarity"

/-- The computed field of the text score. -/
def textScoreAlias : String := "text_score"

/-- The computed field of the blend. -/
def hybridScoreAlias : String := "hybrid_score"

/-- The settings of a query, unchecked. -/
structure Draft where
  text : String
  textField : String
  vector : Embedding
  alpha : Double := defaultAlpha
  restriction : Restriction := .none
  stopwords : Stopwords := .english
  numResults : UInt64 := defaultResults
  returnFields : List String := []
  dialect : UInt32 := defaultDialect

/-- A change to a draft. -/
inductive Setting where
  | alpha (weight : Double)
  | restriction (restriction : Restriction)
  | stopwords (stopwords : Stopwords)
  | numResults (count : UInt64)
  | returnFields (fields : List String)
  | dialect (dialect : UInt32)

/-- A weight between zero and one. -/
def checkAlpha (x : Double) : Except Invalid Unit :=
  if (Binary.zero : Double).le x && x.le (Binary.ofInt 1) then .ok ()
  else .error (.outOfRange "alpha" (.outsideUnit x))

namespace Draft

/-- The draft with one setting changed. -/
def set (draft : Draft) : Setting → Draft
  | .alpha weight => { draft with alpha := weight }
  | .restriction restriction => { draft with restriction }
  | .stopwords stopwords => { draft with stopwords }
  | .numResults count => { draft with numResults := count }
  | .returnFields fields => { draft with returnFields := fields }
  | .dialect dialect => { draft with dialect }

/-- The query of a draft, once its settings are checked. -/
def build (draft : Draft) : Except Invalid Hybrid := do
  requireName "text field" draft.textField
  checkAlpha draft.alpha
  requirePositive "num_results" draft.numResults
  requireDialect draft.dialect
  requireReturnFields draft.returnFields
  let words ← TextClause.wordsOf draft.stopwords draft.text
  return {
    text := draft.text
    textField := draft.textField
    words
    vector := draft.vector
    alpha := draft.alpha
    restriction := draft.restriction
    numResults := draft.numResults
    returnFields := draft.returnFields
    dialect := draft.dialect
  }

end Draft

/-- The blend of the two scores, as an expression over a row. -/
def blendExpression (alpha : Double) : String :=
  Double.trimmed ((Binary.ofInt 1 : Double).sub alpha) ++ "*@" ++ textScoreAlias
    ++ " + " ++ Double.trimmed alpha ++ "*@" ++ similarityAlias

/-- The steps that compute the blend and rank by it. -/
def pipeline (query : Hybrid) : Pipeline where
  scorer := some FullText.defaultScorer
  addScores := true
  load := query.returnFields
  apply := [
    ⟨"(2 - @" ++ distanceAlias ++ ")/2", similarityAlias⟩,
    ⟨"@__score", textScoreAlias⟩,
    ⟨blendExpression query.alpha, hybridScoreAlias⟩
  ]
  sortBy := hybridScoreAlias
  max := query.numResults
  dialect := query.dialect

/-- The text and the restriction. -/
def textPart (query : Hybrid) : String :=
  let clause := "~" ++ TextClause.render ⟨query.textField, query.words⟩
  if query.restriction.isMatchAll then clause
  else clause ++ " AND " ++ query.restriction.build

/-- The query in the engine's syntax. -/
def queryString (query : Hybrid) : String :=
  "(" ++ query.textPart ++ ")=>[KNN $" ++ neighboursParam ++ " @" ++ Escape.field query.vector.field
    ++ " $" ++ vectorParam ++ " AS " ++ distanceAlias ++ "]"

/-- The values of the placeholders. -/
def params (query : Hybrid) : Parameters :=
  Parameters.ofList [
    (neighboursParam, Parameter.ofCount query.numResults),
    (vectorParam, Parameter.bytes query.vector.payload)
  ]

/-- The query, ready to be sent. -/
def compile (query : Hybrid) : Compiled :=
  ⟨query.queryString, query.params, .aggregate query.pipeline⟩

end Hybrid

end SearchQuery.Query
