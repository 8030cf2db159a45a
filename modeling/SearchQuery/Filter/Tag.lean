import SearchQuery.Filter.Field

/-!
# Conditions on tags

A tag condition lists the tags of which a document has at least one. Blank
tags are left out, and a list of none asks for nothing.
-/

namespace SearchQuery.Filter

/-- The tags of a list that are not blank, without the white space around
them. -/
def tagValues (values : List String) : List String :=
  (values.map Text.trim).filter fun value => !value.isEmpty

/-- The alternatives of a tag condition. -/
def tagSet (ref : String) (values : List String) : String :=
  match tagValues values with
  | [] => wildcard
  | values => ref ++ ":\x7b" ++ "|".intercalate (values.map Escape.tag) ++ "\x7d"

/-- The field has one of the tags. -/
def tag (field : String) (values : List String) : Except Invalid Filter := do
  let ref ← fieldRef field
  return leaf ⟨.tag, field, tagSet ref values⟩

/-- The field has none of the tags. -/
def tagNot (field : String) (values : List String) : Except Invalid Filter := do
  return not (← tag field values)

end SearchQuery.Filter
