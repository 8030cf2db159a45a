import SearchQuery.Embedding
import SearchQuery.Query.Settings
import SearchQuery.Score

/-!
# Several vectors

A query over several vector fields at once. Each vector has a clause that
every document meets and that yields its distance; the pipeline makes each
distance a score and ranks by the weighted sum. Vector, distance and score
of one position carry its number in their names.
-/

namespace SearchQuery.Query

/-- A query over several vectors. -/
structure MultiVector where
  vectors : List Embedding
  restriction : Restriction
  numResults : UInt64
  returnFields : List String
  dialect : UInt32

namespace MultiVector

/-- The computed field of the weighted sum. -/
def combinedScoreAlias : String := "combined_score"

/-- A distance that no two vectors exceed. -/
def anyDistance : String := "2.0"

/-- The field of a position's distance. -/
def distanceName (position : Nat) : String := "distance_" ++ toString position

/-- The placeholder of a position's vector. -/
def vectorName (position : Nat) : String := "vector_" ++ toString position

/-- The settings of a query, unchecked. -/
structure Draft where
  vectors : List Embedding
  restriction : Restriction := .none
  numResults : UInt64 := defaultResults
  returnFields : List String := []
  dialect : UInt32 := defaultDialect

/-- A change to a draft. -/
inductive Setting where
  /-- One more vector, after the others. -/
  | vector (vector : Embedding)
  | restriction (restriction : Restriction)
  | numResults (count : UInt64)
  | returnFields (fields : List String)
  | dialect (dialect : UInt32)

namespace Draft

/-- The draft with one setting changed. -/
def set (draft : Draft) : Setting → Draft
  | .vector vector => { draft with vectors := draft.vectors ++ [vector] }
  | .restriction restriction => { draft with restriction }
  | .numResults count => { draft with numResults := count }
  | .returnFields fields => { draft with returnFields := fields }
  | .dialect dialect => { draft with dialect }

/-- The query of a draft, once its settings are checked. -/
def build (draft : Draft) : Except Invalid MultiVector := do
  if draft.vectors.isEmpty then
    throw (.vector .noVectors)
  requirePositive "num_results" draft.numResults
  requireDialect draft.dialect
  requireReturnFields draft.returnFields
  return {
    vectors := draft.vectors
    restriction := draft.restriction
    numResults := draft.numResults
    returnFields := draft.returnFields
    dialect := draft.dialect
  }

end Draft

/-- The weighted sum over the vectors' scores. -/
def formula (query : MultiVector) : Formula := ⟨query.vectors.map (·.weight)⟩

/-- The step that makes a position's distance a score. -/
def scoreStep (position : Nat) : ApplyStep :=
  ⟨"(2 - @" ++ distanceName position ++ ")/2", Score.name position⟩

/-- The steps that compute the sum and rank by it. -/
def pipeline (query : MultiVector) : Pipeline where
  scorer := none
  addScores := false
  load := query.returnFields
  apply :=
    (List.range query.vectors.length).map scoreStep
      ++ [⟨query.formula.expression, combinedScoreAlias⟩]
  sortBy := combinedScoreAlias
  max := query.numResults
  dialect := query.dialect

/-- The clause of a position's vector. -/
def clause (position : Nat) (vector : Embedding) : String :=
  "@" ++ Escape.field vector.field ++ ":[VECTOR_RANGE " ++ anyDistance
    ++ " $" ++ vectorName position ++ "]=>\x7b$YIELD_DISTANCE_AS: " ++ distanceName position ++ "\x7d"

/-- The clauses of the vectors from a position on. -/
def clausesFrom (position : Nat) : List Embedding → List String
  | [] => []
  | vector :: vectors => clause position vector :: clausesFrom (position + 1) vectors

/-- The clauses of all vectors, as alternatives. -/
def clauses (query : MultiVector) : String := " | ".intercalate (clausesFrom 0 query.vectors)

/-- The query in the engine's syntax. -/
def queryString (query : MultiVector) : String :=
  if query.restriction.isMatchAll then query.clauses
  else "(" ++ query.clauses ++ ") AND (" ++ query.restriction.build ++ ")"

/-- The payloads of the vectors from a position on. -/
def payloadsFrom (position : Nat) : List Embedding → List (String × Parameter)
  | [] => []
  | vector :: vectors =>
    (vectorName position, .bytes vector.payload) :: payloadsFrom (position + 1) vectors

/-- The values of the placeholders. -/
def params (query : MultiVector) : Parameters :=
  Parameters.ofList (payloadsFrom 0 query.vectors)

/-- The query, ready to be sent. -/
def compile (query : MultiVector) : Compiled :=
  ⟨query.queryString, query.params, .aggregate query.pipeline⟩

end MultiVector

end SearchQuery.Query
