import SearchQuery.Embedding
import SearchQuery.Query.Settings

/-!
# Vectors within a distance

A query for the documents whose vector lies within a distance of a given
one. The distance and the approximation factor can be changed after the
query is built; a value that is refused leaves the query as it was.
-/

namespace SearchQuery.Query

/-- A query for the vectors within a distance. -/
structure Range where
  vector : Embedding
  restriction : Restriction
  threshold : Double
  epsilon : Option Double
  /-- The distance is one of normalized vectors, which is at most one. -/
  normalize : Bool
  options : SearchOptions

namespace Range

/-- The distance unless told. -/
def defaultThreshold : Double := Decimal.toBinary ⟨false, 2, -1⟩

/-- The greatest distance of normalized vectors. -/
def maxNormalized : Double := Binary.ofInt 1

/-- A distance that is a number, not below zero, and not above the
greatest normalized one where that applies. -/
def checkThreshold (normalize : Bool) (x : Double) : Except Invalid Double :=
  if !x.isFinite || x.lt Binary.zero then
    .error (.outOfRange "distance_threshold" (.notNonNegative x))
  else if normalize && maxNormalized.lt x then
    .error (.outOfRange "distance_threshold" (.aboveNormalized x))
  else .ok x

/-- An approximation factor that is a number, not below zero. -/
def checkEpsilon (x : Double) : Except Invalid Double :=
  if !x.isFinite || x.lt Binary.zero then .error (.outOfRange "epsilon" (.notNonNegative x))
  else .ok x

/-- The settings of a query, unchecked. -/
structure Draft where
  vector : Embedding
  restriction : Restriction := .none
  threshold : Double := defaultThreshold
  epsilon : Option Double := none
  normalize : Bool := false
  results : Results := {}

/-- A change to a draft. -/
inductive Setting where
  | result (setting : ResultSetting)
  | restriction (restriction : Restriction)
  | threshold (distance : Double)
  | epsilon (factor : Double)
  | normalize (on : Bool)

namespace Draft

/-- The draft with one setting changed. -/
def set (draft : Draft) : Setting → Draft
  | .result setting => { draft with results := draft.results.set setting }
  | .restriction restriction => { draft with restriction }
  | .threshold distance => { draft with threshold := distance }
  | .epsilon factor => { draft with epsilon := some factor }
  | .normalize on => { draft with normalize := on }

/-- The query of a draft, once its settings are checked. -/
def build (draft : Draft) : Except Invalid Range := do
  let threshold ← checkThreshold draft.normalize draft.threshold
  let epsilon ← draft.epsilon.mapM checkEpsilon
  let options ← draft.results.check (some nearestFirst)
  return {
    vector := draft.vector
    restriction := draft.restriction
    threshold
    epsilon
    normalize := draft.normalize
    options := returningDistance options
  }

end Draft

/-! ## Changing a built query -/

/-- The query with another distance. -/
def setThreshold (x : Double) (query : Range) : Except Invalid Range := do
  let threshold ← checkThreshold query.normalize x
  return { query with threshold }

/-- The query with another approximation factor. -/
def setEpsilon (x : Double) (query : Range) : Except Invalid Range := do
  let epsilon ← checkEpsilon x
  return { query with epsilon := some epsilon }

/-- The query with the approximation factor of its index. -/
def clearEpsilon (query : Range) : Range := { query with epsilon := none }

/-! ## Writing -/

/-- The approximation factor as an attribute of the clause. -/
def epsilonPart (query : Range) : String :=
  match query.epsilon with
  | some epsilon => "$EPSILON: " ++ Double.literal epsilon ++ "; "
  | none => ""

/-- The clause of the vector field. -/
def clause (query : Range) : String :=
  "@" ++ Escape.field query.vector.field ++ ":[VECTOR_RANGE " ++ Double.literal query.threshold
    ++ " $" ++ vectorParam ++ "]=>\x7b" ++ query.epsilonPart
    ++ "$YIELD_DISTANCE_AS: " ++ distanceAlias ++ "\x7d"

/-- The query in the engine's syntax. -/
def queryString (query : Range) : String :=
  if query.restriction.isMatchAll then query.clause
  else "(" ++ query.clause ++ " " ++ query.restriction.build ++ ")"

/-- The values of the placeholders. -/
def params (query : Range) : Parameters := [(vectorParam, .bytes query.vector.payload)]

/-- The query, ready to be sent. -/
def compile (query : Range) : Compiled :=
  ⟨query.queryString, query.params, .search query.options⟩

end Range

end SearchQuery.Query
