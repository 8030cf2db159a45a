import SearchQuery.Filter.Basic

/-!
# Restrictions

What a query restricts its documents by: a filter tree, or a fragment
that is already in the engine's syntax. A fragment is taken without the
white space around it, and a blank one restricts nothing.
-/

namespace SearchQuery

/-- A filter tree or a fragment of a query string. -/
inductive Restriction where
  | tree (filter : Filter)
  | raw (fragment : String)
deriving Repr

namespace Restriction

/-- The restriction that every document passes. -/
def none : Restriction := raw Filter.wildcard

instance : Inhabited Restriction := ⟨none⟩

/-- The restriction in the engine's syntax. -/
def build : Restriction → String
  | tree filter => filter.build
  | raw fragment => if Text.isBlank fragment then Filter.wildcard else Text.trim fragment

/-- The restriction is written as the condition that every document meets. -/
def isMatchAll (restriction : Restriction) : Bool := restriction.build == Filter.wildcard

end Restriction

end SearchQuery
