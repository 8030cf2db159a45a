import SearchQuery.Embedding
import SearchQuery.Query.Settings

/-!
# Nearest neighbours

A query for the documents nearest to a vector. What it is restricted by —
a filter and a text clause — comes before the arrow; the search itself
stands in brackets after it, with the names of its placeholders.
-/

namespace SearchQuery.Query

/-! ## Tuning -/

/-- Whether a graph index uses its search history. -/
inductive History where
  | off
  | on
  | auto
deriving DecidableEq, Repr

namespace History

/-- The canonical name. -/
def name : History → String
  | off => "OFF"
  | on => "ON"
  | auto => "AUTO"

instance : Keyword History where
  kind := "search history mode"
  all := [off, on, auto]
  name := name

end History

/-- How a restricted search combines the restriction with the vectors. -/
inductive Policy where
  /-- Vectors in batches, each batch then restricted. -/
  | batches
  /-- Every document that passes the restriction. -/
  | adhoc
deriving DecidableEq, Repr

namespace Policy

/-- The canonical name. -/
def name : Policy → String
  | batches => "BATCHES"
  | adhoc => "ADHOC_BF"

instance : Keyword Policy where
  kind := "hybrid policy"
  all := [batches, adhoc]
  name := name

end Policy

/-- The settings of an index that a query may override. -/
structure Tuning where
  efRuntime : Option UInt64 := none
  searchWindowSize : Option UInt64 := none
  useSearchHistory : Option History := none
  searchBufferCapacity : Option UInt64 := none
  hybridPolicy : Option Policy := none
  batchSize : Option UInt64 := none
deriving DecidableEq

namespace Tuning

/-- A size, if given, is not zero. -/
def requireSize (setting : String) (size : Option UInt64) : Except Invalid Unit :=
  match size with
  | some size => requirePositive setting size
  | none => .ok ()

/-- The sizes are not zero, and only the policy of batches has a batch
size. -/
def check (tuning : Tuning) : Except Invalid Unit := do
  requireSize "ef_runtime" tuning.efRuntime
  requireSize "search_window_size" tuning.searchWindowSize
  requireSize "search_buffer_capacity" tuning.searchBufferCapacity
  requireSize "batch_size" tuning.batchSize
  if tuning.batchSize.isSome && tuning.hybridPolicy != some .batches then
    throw (.outOfRange "batch_size" .withoutBatches)

/-- A setting whose value is the placeholder of its own name. -/
def bound (name : String) (given : Bool) : String :=
  if given then " " ++ name ++ " $" ++ name else ""

/-- The policy, and the batch size it has. -/
def policyClause (tuning : Tuning) : String :=
  match tuning.hybridPolicy with
  | none => ""
  | some policy =>
    " HYBRID_POLICY " ++ policy.name ++
      match tuning.batchSize with
      | some size => " BATCH_SIZE " ++ toString size.toNat
      | none => ""

/-- The settings inside the brackets, each with a space before it. -/
def clause (tuning : Tuning) : String :=
  bound "EF_RUNTIME" tuning.efRuntime.isSome
    ++ bound "SEARCH_WINDOW_SIZE" tuning.searchWindowSize.isSome
    ++ bound "USE_SEARCH_HISTORY" tuning.useSearchHistory.isSome
    ++ bound "SEARCH_BUFFER_CAPACITY" tuning.searchBufferCapacity.isSome
    ++ tuning.policyClause

/-- The values of the placeholders of the settings. -/
def params (tuning : Tuning) : List (String × Parameter) :=
  (tuning.efRuntime.map fun n => ("EF_RUNTIME", Parameter.ofCount n)).toList
    ++ (tuning.searchWindowSize.map fun n => ("SEARCH_WINDOW_SIZE", Parameter.ofCount n)).toList
    ++ (tuning.useSearchHistory.map fun mode =>
      ("USE_SEARCH_HISTORY", Parameter.text mode.name)).toList
    ++ (tuning.searchBufferCapacity.map fun n =>
      ("SEARCH_BUFFER_CAPACITY", Parameter.ofCount n)).toList

end Tuning

/-! ## Queries -/

/-- A query for nearest neighbours. -/
structure Nearest where
  vector : Embedding
  restriction : Restriction
  textClause : Option TextClause
  tuning : Tuning
  returnScore : Bool
  options : SearchOptions

namespace Nearest

/-- The settings of a query, unchecked. -/
structure Draft where
  vector : Embedding
  restriction : Restriction := .none
  /-- The field and the text of a clause. -/
  textClause : Option (String × String) := none
  tuning : Tuning := {}
  returnScore : Bool := true
  results : Results := {}

/-- A change to a draft. -/
inductive Setting where
  | result (setting : ResultSetting)
  | restriction (restriction : Restriction)
  | textClause (field text : String)
  | returnScore (on : Bool)
  | efRuntime (size : UInt64)
  | searchWindowSize (size : UInt64)
  | useSearchHistory (mode : History)
  | searchBufferCapacity (size : UInt64)
  | hybridPolicy (policy : Policy)
  | batchSize (size : UInt64)

namespace Draft

/-- The draft with one setting changed. -/
def set (draft : Draft) : Setting → Draft
  | .result setting => { draft with results := draft.results.set setting }
  | .restriction restriction => { draft with restriction }
  | .textClause field text => { draft with textClause := some (field, text) }
  | .returnScore on => { draft with returnScore := on }
  | .efRuntime size => { draft with tuning.efRuntime := some size }
  | .searchWindowSize size => { draft with tuning.searchWindowSize := some size }
  | .useSearchHistory mode => { draft with tuning.useSearchHistory := some mode }
  | .searchBufferCapacity size => { draft with tuning.searchBufferCapacity := some size }
  | .hybridPolicy policy => { draft with tuning.hybridPolicy := some policy }
  | .batchSize size => { draft with tuning.batchSize := some size }

/-- The clause of a field and a text that may not have been given. -/
def checkClause : Option (String × String) → Except Invalid (Option TextClause)
  | some (field, text) => do return some (← TextClause.make field text)
  | none => .ok none

/-- The query of a draft, once its settings are checked. A query that
returns the distance sorts by it unless told otherwise. -/
def build (draft : Draft) : Except Invalid Nearest := do
  draft.tuning.check
  let textClause ← checkClause draft.textClause
  let options ← draft.results.check (if draft.returnScore then some nearestFirst else none)
  return {
    vector := draft.vector
    restriction := draft.restriction
    textClause
    tuning := draft.tuning
    returnScore := draft.returnScore
    options := if draft.returnScore then returningDistance options else options
  }

end Draft

/-- The text clause, with a space before it. -/
def clausePart (query : Nearest) : String :=
  match query.textClause with
  | some clause => " " ++ clause.render
  | none => ""

/-- The query in the engine's syntax. -/
def queryString (query : Nearest) : String :=
  query.restriction.build ++ query.clausePart ++ "=>[KNN $" ++ neighboursParam
    ++ " @" ++ Escape.field query.vector.field ++ " $" ++ vectorParam
    ++ query.tuning.clause
    ++ (if query.returnScore then " AS " ++ distanceAlias else "") ++ "]"

/-- The values of the placeholders. -/
def params (query : Nearest) : Parameters :=
  Parameters.ofList <|
    (neighboursParam, Parameter.ofCount query.options.num)
      :: (vectorParam, Parameter.bytes query.vector.payload)
      :: query.tuning.params

/-- The query, ready to be sent. -/
def compile (query : Nearest) : Compiled :=
  ⟨query.queryString, query.params, .search query.options⟩

end Nearest

end SearchQuery.Query
