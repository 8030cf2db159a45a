import SearchQuery.Error

/-!
# Filters

A filter is a tree of conditions. Its leaves carry the text of one
condition each; the modules beside this one make them, and check what they
are made of first, so every tree that exists can be written.

`Filter.build` writes a tree in the engine's syntax. The text `*` matches
every document, and a conjunction leaves out its operands of that text: a
criterion that was not given does not show.
-/

namespace SearchQuery

/-- What a leaf's condition is about. -/
inductive LeafKind where
  | text
  | tag
  | numeric
  | geo
  | custom
deriving DecidableEq, Repr

/-- One condition, as it is written. -/
structure Leaf where
  kind : LeafKind
  field : String
  expression : String
deriving DecidableEq, Repr

/-- A tree of conditions. -/
inductive Filter where
  | leaf (leaf : Leaf)
  | all (operands : List Filter)
  | any (operands : List Filter)
  | not (operand : Filter)
deriving Repr

namespace Filter

/-- The condition that every document meets. -/
def wildcard : String := "*"

/-- A conjunction of written operands. -/
def joinAll (parts : List String) : String :=
  match parts.filter (· != wildcard) with
  | [] => wildcard
  | [part] => part
  | parts => "(" ++ " ".intercalate parts ++ ")"

/-- A disjunction of written operands. -/
def joinAny (parts : List String) : String := "(" ++ " | ".intercalate parts ++ ")"

mutual

/-- The filter in the engine's syntax. -/
def build : Filter → String
  | leaf l => l.expression
  | all operands => joinAll (buildEach operands)
  | any operands => joinAny (buildEach operands)
  | not operand => "-" ++ build operand

/-- Each of the filters in the engine's syntax. -/
def buildEach : List Filter → List String
  | [] => []
  | operand :: operands => build operand :: buildEach operands

end

/-- The filter is written as the condition that every document meets. -/
def isMatchAll (filter : Filter) : Bool := filter.build == wildcard

/-! ## Making trees -/

/-- The filter that every document passes. -/
def matchAll : Filter := leaf ⟨.custom, "", wildcard⟩

/-- The conjunction of one filter or more. -/
def allOf : List Filter → Except Invalid Filter
  | [] => .error (.emptyComposite "and")
  | operands => .ok (all operands)

/-- The disjunction of one filter or more. -/
def anyOf : List Filter → Except Invalid Filter
  | [] => .error (.emptyComposite "or")
  | operands => .ok (any operands)

/-- A filter that applies on a condition, and otherwise passes every
document. -/
def onlyIf (condition : Bool) (filter : Filter) : Filter :=
  if condition then filter else matchAll

/-- A condition in the engine's own syntax, taken as it is. -/
def custom (field expression : String) : Except Invalid Filter := do
  requireName "field name" field
  if Text.isBlank expression then
    throw (.missingValue "custom expression")
  return leaf ⟨.custom, field, expression⟩

end Filter

end SearchQuery
