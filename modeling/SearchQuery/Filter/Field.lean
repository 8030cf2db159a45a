import SearchQuery.Escape
import SearchQuery.Filter.Basic

/-!
# Fields of a filter

Every leaf names the field that its condition is about.
-/

namespace SearchQuery.Filter

/-- The reference to a field that has a name. -/
def fieldRef (field : String) : Except Invalid String := do
  requireName "field name" field
  return "@" ++ Escape.field field

/-- A value without the white space around it, which something is left of. -/
def required (what value : String) : Except Invalid String :=
  let value := Text.trim value
  if value.isEmpty then .error (.missingValue what) else .ok value

end SearchQuery.Filter
