import SearchQuery.Query.FullText
import SearchQuery.Query.Listing
import SearchQuery.Query.Nearest
import SearchQuery.Query.Range

/-!
# Changing a built query

A query that is kept can be changed by calls on it. A call answers or
refuses, and whichever it does, what it leaves of the query is what the
next call finds (`after`). Every search can be sorted another way; the
distance and the approximation factor of a range can be changed as well.
-/

namespace SearchQuery.Query

/-! ## Calls -/

/-- A call on a query that is kept: it answers or refuses, and leaves a
query in either case. -/
abbrev Call (σ α : Type) : Type := ExceptT Invalid (StateM σ) α

section Runs

variable {σ κ α : Type}

/-- The answer of a call, and the query that it leaves. -/
def Call.on (call : Call σ α) (query : σ) : Except Invalid α × σ := call.run.run query

/-- The query that calls leave, one after the other. -/
def after (call : κ → Call σ α) (query : σ) : List κ → σ
  | [] => query
  | change :: changes => after call ((call change).on query).2 changes

/-- Those of the calls that answered, in order. -/
def accepted (call : κ → Call σ α) (query : σ) : List κ → List κ
  | [] => []
  | change :: changes =>
    match (call change).on query with
    | (.ok _, next) => change :: accepted call next changes
    | (.error _, next) => accepted call next changes

end Runs

/-! ## The order of the results -/

/-- A query whose results come in an order. -/
class Ordered (σ : Type) where
  options : σ → SearchOptions
  withOptions : SearchOptions → σ → σ

instance : Ordered Nearest where
  options := Nearest.options
  withOptions options query := { query with options }

instance : Ordered Range where
  options := Range.options
  withOptions options query := { query with options }

instance : Ordered FullText where
  options := FullText.options
  withOptions options query := { query with options }

instance : Ordered Listing where
  options := Listing.options
  withOptions options query := { query with options }

/-- A change of the order. -/
inductive OrderChange where
  | sortBy (spec : SortSpec)
  | clearSort

/-- The call that makes a change of the order. It answers with what was
made of a new order. -/
def OrderChange.call {σ : Type} [Ordered σ] : OrderChange → Call σ (Option SortOrder)
  | sortBy spec => do
    let (order, options) ← reorder spec (Ordered.options (← get))
    modify (Ordered.withOptions options)
    return some order
  | clearSort => do
    modify fun query => Ordered.withOptions (unorder (Ordered.options query)) query
    return none

/-! ## Ranges -/

namespace Range

/-- A change of a range. -/
inductive Change where
  | threshold (distance : Double)
  | epsilon (factor : Double)
  | clearEpsilon
  | order (change : OrderChange)

/-- The call that makes a change of a range. -/
def Change.call : Change → Call Range (Option SortOrder)
  | threshold distance => do
    set (← setThreshold distance (← get))
    return none
  | epsilon factor => do
    set (← setEpsilon factor (← get))
    return none
  | clearEpsilon => do
    modify Range.clearEpsilon
    return none
  | order change => change.call

end Range

end SearchQuery.Query
