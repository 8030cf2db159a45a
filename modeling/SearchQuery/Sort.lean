import SearchQuery.Error

/-!
# Sort orders

The engine sorts by one field at most. A caller may name a field, a field
with a direction, a key, or a list of keys; `SortSpec.normalize` reduces
each of these to one key. Of a list the first key is kept and the names of
the others are reported, so nothing is dropped in silence.
-/

namespace SearchQuery

/-- A sort direction. -/
inductive Direction where
  | ascending
  | descending
deriving DecidableEq, Repr

namespace Direction

/-- The keyword of a direction. -/
def name : Direction → String
  | ascending => "ASC"
  | descending => "DESC"

instance : Keyword Direction where
  kind := "sort direction"
  all := [ascending, descending]
  name := name

end Direction

/-- A field to sort by, and which way. -/
structure SortKey where
  field : String
  ascending : Bool
deriving DecidableEq, Repr

namespace SortKey

/-- The direction of a key. -/
def direction (key : SortKey) : Direction :=
  if key.ascending then .ascending else .descending

/-- The key of a field that has a name. -/
def make (field : String) (direction : Direction) : Except Invalid SortKey := do
  requireName "sort field" field
  return { field, ascending := direction == .ascending }

end SortKey

/-- A sort order as a caller gives it. -/
inductive SortSpec where
  /-- A field, ascending. -/
  | field (name : String)
  /-- A field and the name of a direction. -/
  | directed (name direction : String)
  /-- One key. -/
  | key (given : SortKey)
  /-- Keys in order of rank. -/
  | keys (given : List SortKey)
deriving DecidableEq, Repr

/-- A sort order reduced to what the engine can do. -/
structure SortOrder where
  /-- The key that is sorted by, if any. -/
  key : Option SortKey
  /-- The fields of the keys that were dropped, in order. -/
  discarded : List String
deriving DecidableEq, Repr

namespace SortOrder

/-- No order at all. -/
def unsorted : SortOrder := ⟨none, []⟩

/-- A part of the order was dropped. -/
def isLossy (order : SortOrder) : Bool := !order.discarded.isEmpty

end SortOrder

namespace SortSpec

/-- The order that sorts by one key, with the fields of the keys dropped. -/
def chosen (field : String) (direction : Direction) (discarded : List String) :
    Except Invalid SortOrder := do
  let key ← SortKey.make field direction
  return ⟨some key, discarded⟩

/-- The order that a specification asks for. A direction is read before
its field is looked at, and the keys after the first are not checked. -/
def normalize : SortSpec → Except Invalid SortOrder
  | field name => chosen name .ascending []
  | directed name direction => do
    let direction ← Keyword.read direction
    chosen name direction []
  | key given => chosen given.field given.direction []
  | keys [] => .ok .unsorted
  | keys (first :: rest) => chosen first.field first.direction (rest.map (·.field))

end SortSpec

end SearchQuery
