import SearchQuery.Command
import SearchQuery.Filter.Restriction
import SearchQuery.Tokens

/-!
# Settings that queries share

A query is made from settings that are collected first and checked once,
when the query is built. Setting a value again replaces it, so a value
that was overridden is never looked at. Each kind of query has a draft —
its settings, unchecked — and a list of the ways to change one.

The settings here say which results to return and how. The checks of the
counts and of the names come before the check of the sort order.
-/

namespace SearchQuery.Query

/-- The field in which a vector search puts the distance. -/
def distanceAlias : String := "vector_distance"

/-- The placeholder of the number of neighbours. -/
def neighboursParam : String := "K"

/-- The placeholder of the query vector. -/
def vectorParam : String := "vec"

/-- A count that is not zero. -/
def requirePositive (setting : String) (count : UInt64) : Except Invalid Unit :=
  if count == 0 then .error (.outOfRange setting .notPositive) else .ok ()

/-- A dialect that exists. -/
def requireDialect (dialect : UInt32) : Except Invalid Unit :=
  if dialect == 0 then .error (.outOfRange "dialect" .belowOne) else .ok ()

/-- Fields to return that all have names. -/
def requireReturnFields (fields : List String) : Except Invalid Unit :=
  if fields.any Text.isBlank then .error (.blankField "return field") else .ok ()

/-- The fields with one more, unless it is among them. -/
def withField (name : String) (fields : List String) : List String :=
  if fields.contains name then fields else fields ++ [name]

/-! ## Results -/

/-- Which results to return, before it is checked. -/
structure Results where
  returnFields : List String := []
  numResults : UInt64 := defaultResults
  offset : UInt64 := 0
  dialect : UInt32 := defaultDialect
  sortBy : Option SortSpec := none
  inOrder : Bool := false
deriving DecidableEq

/-- A change to the results. -/
inductive ResultSetting where
  | returnFields (fields : List String)
  | numResults (count : UInt64)
  | offset (count : UInt64)
  | dialect (dialect : UInt32)
  | sortBy (spec : SortSpec)
  | inOrder (on : Bool)

namespace Results

/-- The results with one setting changed. -/
def set (results : Results) : ResultSetting → Results
  | .returnFields fields => { results with returnFields := fields }
  | .numResults count => { results with numResults := count }
  | .offset count => { results with offset := count }
  | .dialect dialect => { results with dialect }
  | .sortBy spec => { results with sortBy := some spec }
  | .inOrder on => { results with inOrder := on }

/-- The key of an order that may not have been given. -/
def sortKey (spec : Option SortSpec) (byDefault : Option SortKey) :
    Except Invalid (Option SortKey) :=
  match spec with
  | some spec => do return (← spec.normalize).key
  | none => .ok byDefault

/-- The options of a search, once the results are checked. The default key
sorts where no order was given. -/
def check (results : Results) (byDefault : Option SortKey) : Except Invalid SearchOptions := do
  requirePositive "num_results" results.numResults
  requireDialect results.dialect
  requireReturnFields results.returnFields
  let sortBy ← sortKey results.sortBy byDefault
  return {
    returnFields := results.returnFields
    offset := results.offset
    num := results.numResults
    dialect := results.dialect
    sortBy
    inOrder := results.inOrder
  }

end Results

/-- The key that puts the nearest documents first. -/
def nearestFirst : SortKey := ⟨distanceAlias, true⟩

/-- The options with the distance among the fields to return, if fields
are listed at all. -/
def returningDistance (options : SearchOptions) : SearchOptions :=
  if options.returnFields.isEmpty then options
  else { options with returnFields := withField distanceAlias options.returnFields }

/-! ## Changing the order of a built query -/

/-- The options sorted another way, with what was made of the new order. A
specification that is refused leaves no options. -/
def reorder (spec : SortSpec) (options : SearchOptions) :
    Except Invalid (SortOrder × SearchOptions) := do
  let order ← spec.normalize
  return (order, { options with sortBy := order.key })

/-- The options without an order. -/
def unorder (options : SearchOptions) : SearchOptions := { options with sortBy := none }

/-! ## Text clauses -/

/-- The words of a text that a field is searched for. -/
structure TextClause where
  field : String
  words : List String
deriving DecidableEq

namespace TextClause

/-- The words of a text that are kept, of which there is one at least. -/
def wordsOf (stopwords : Stopwords) (text : String) : Except Invalid (List String) :=
  let tokens := stopwords.tokenize text
  if tokens.isEmpty then .error (.noTokens text) else .ok tokens.kept

/-- The clause of a field and a text, none of whose words are dropped. -/
def make (field text : String) : Except Invalid TextClause := do
  requireName "text field" field
  let words ← wordsOf .none text
  return { field, words }

/-- The clause in the engine's syntax. -/
def render (clause : TextClause) : String :=
  "@" ++ Escape.field clause.field ++ ":(" ++ Tokens.joinWords clause.words ++ ")"

end TextClause

end SearchQuery.Query
