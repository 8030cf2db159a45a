import SearchQuery.Filter.Restriction
import SearchQuery.Filter.Spec
import SearchQuery.Spec.Parts

/-!
# Filters in a specification file

A filter is written as a record whose `type` names its kind; the kinds and
the entries they have are listed here. A restriction is a text in the
engine's syntax or such a record.

Inside another record the kind may also be given by its number. The
outermost filter of a file names it.
-/

namespace SearchQuery

namespace FilterSpec

/-! ## Kinds -/

/-- The kinds of filter that a file may write. -/
inductive Kind where
  | text
  | exact
  | startsWith
  | fuzzy
  | pattern
  | tag
  | numeric
  | range
  | geoRadius
  | geoBox
  | custom
  | matchAll
  | all
  | any
  | not
deriving DecidableEq, Repr

namespace Kind

/-- The kinds in the order of their numbers. -/
def kinds : List Kind :=
  [text, exact, startsWith, fuzzy, pattern, tag, numeric, range, geoRadius, geoBox, custom,
    matchAll, all, any, not]

/-- The name of a kind. -/
def name : Kind → String
  | text => "text"
  | exact => "exact"
  | startsWith => "prefix"
  | fuzzy => "fuzzy"
  | pattern => "wildcard"
  | tag => "tag"
  | numeric => "numeric"
  | range => "range"
  | geoRadius => "geo_radius"
  | geoBox => "geo_box"
  | custom => "custom"
  | matchAll => "match_all"
  | all => "and"
  | any => "or"
  | not => "not"

/-- The names of a kind's entries. -/
def names : Kind → List String
  | text => ["field", "value", "negate"]
  | exact => ["field", "phrase"]
  | startsWith => ["field", "prefix"]
  | fuzzy => ["field", "term"]
  | pattern => ["field", "pattern"]
  | tag => ["field", "values", "negate"]
  | numeric => ["field", "op", "value"]
  | range => ["field", "min", "max", "inclusive"]
  | geoRadius => ["field", "lon", "lat", "radius", "unit", "outside"]
  | geoBox => ["field", "min_lon", "min_lat", "max_lon", "max_lat"]
  | custom => ["field", "expression"]
  | matchAll => []
  | all | any => ["filters"]
  | not => ["filter"]

/-- The kind of a name. -/
def ofName? (s : String) : Option Kind := kinds.find? fun kind => kind.name == s

/-- The kind that a document names, or gives the number of. -/
def ofDocument? : Document → Option Kind
  | .text s => ofName? s
  | .natural n => kinds[n]?
  | _ => none

end Kind

/-! ## Comparisons and units -/

/-- The name of a comparison. -/
def comparisonName : Comparison → String
  | .eq => "eq"
  | .ne => "ne"
  | .gt => "gt"
  | .gte => "gte"
  | .lt => "lt"
  | .lte => "lte"

/-- The comparison of a document. -/
def comparison? (d : Document) : Option Comparison := do
  let (name, value) ← d.variant?
  if value.all Document.isNothing then
    [.eq, .ne, .gt, .gte, .lt, .lte].find? fun c => comparisonName c == name
  else none

/-- The unit of a document. -/
def unit? (d : Document) : Option GeoUnit := do
  Keyword.find? (Text.trim (← d.text?))

/-! ## Reading -/

/-- The filter of a kind that has no filters in it, from its entries. -/
def leaf? (kind : Kind) (entries : List (String × Document)) : Option FilterSpec := do
  let textOf (name : String) := Document.required entries name Document.text?
  let numberOf (name : String) := Document.required entries name Document.double?
  let flagOf (name : String) := Document.withDefault entries name false Document.bool?
  match kind with
  | .text => return text (← textOf "field") (← textOf "value") (← flagOf "negate")
  | .exact => return exact (← textOf "field") (← textOf "phrase")
  | .startsWith => return startsWith (← textOf "field") (← textOf "prefix")
  | .fuzzy => return fuzzy (← textOf "field") (← textOf "term")
  | .pattern => return pattern (← textOf "field") (← textOf "pattern")
  | .tag =>
    return tag (← textOf "field") (← Document.withDefault entries "values" [] Document.texts?)
      (← flagOf "negate")
  | .numeric =>
    return numeric (← textOf "field") (← Document.required entries "op" comparison?)
      (← numberOf "value")
  | .range =>
    return range (← textOf "field") (← numberOf "min") (← numberOf "max")
      (← Document.withDefault entries "inclusive" .both Keyword.ofDocument?)
  | .geoRadius =>
    return geoRadius (← textOf "field") (← numberOf "lon") (← numberOf "lat")
      (← numberOf "radius") (← Document.withDefault entries "unit" .kilometres unit?)
      (← flagOf "outside")
  | .geoBox =>
    return geoBox (← textOf "field") (← numberOf "min_lon") (← numberOf "min_lat")
      (← numberOf "max_lon") (← numberOf "max_lat")
  | .custom => return custom (← textOf "field") (← textOf "expression")
  | .matchAll | .all | .any | .not => none

mutual

/-- The filter of a document. A filter that passes every document may have
any entries. -/
def ofDocument? : Document → Option FilterSpec
  | .record entries => do
    let (kind, rest) ← Document.typed? (.record entries)
    match ← Kind.ofDocument? kind with
    | .matchAll => return matchAll
    | .all => do
      let _ ← rest.entries? Kind.all.names
      return all (← operandsIn? entries)
    | .any => do
      let _ ← rest.entries? Kind.any.names
      return any (← operandsIn? entries)
    | .not => do
      let _ ← rest.entries? Kind.not.names
      return not (← operandIn? entries)
    | kind => leaf? kind (← rest.entries? kind.names)
  | .list (kind :: items) => do
    match ← Kind.ofDocument? kind with
    | .matchAll => if items.isEmpty then return matchAll else none
    | .all => return all (← operandsAt? items)
    | .any => return any (← operandsAt? items)
    | .not => return not (← operandAt? items)
    | kind => leaf? kind (← Document.entries? kind.names (.list items))
  | _ => none

/-- The filter of the entry `filter`. -/
def operandIn? : List (String × Document) → Option FilterSpec
  | [] => none
  | (name, value) :: entries => if name == "filter" then ofDocument? value else operandIn? entries

/-- The filters of the entry `filters`. -/
def operandsIn? : List (String × Document) → Option (List FilterSpec)
  | [] => none
  | (name, .list items) :: entries =>
    if name == "filters" then ofDocuments? items else operandsIn? entries
  | (name, _) :: entries => if name == "filters" then none else operandsIn? entries

/-- The filter that is the only item. -/
def operandAt? : List Document → Option FilterSpec
  | [item] => ofDocument? item
  | _ => none

/-- The filters of the list that is the only item. -/
def operandsAt? : List Document → Option (List FilterSpec)
  | [.list items] => ofDocuments? items
  | _ => none

/-- The filters of documents, in order. -/
def ofDocuments? : List Document → Option (List FilterSpec)
  | [] => some []
  | item :: items => do
    let operand ← ofDocument? item
    let operands ← ofDocuments? items
    return operand :: operands

end

/-- The kind of a document is given by its number. -/
def isNumbered (d : Document) : Bool :=
  match d.typed? with
  | some (.natural _, _) => true
  | _ => false

/-- The filter of a whole file. -/
def ofFile? (d : Document) : Option FilterSpec := if isNumbered d then none else ofDocument? d

/-! ## Writing -/

mutual

/-- A filter as a document. -/
def toDocument : FilterSpec → Document
  | text field value negate =>
    .ofKind "text" [("field", .text field), ("value", .text value), ("negate", .bool negate)]
  | exact field phrase => .ofKind "exact" [("field", .text field), ("phrase", .text phrase)]
  | startsWith field beginning =>
    .ofKind "prefix" [("field", .text field), ("prefix", .text beginning)]
  | fuzzy field term => .ofKind "fuzzy" [("field", .text field), ("term", .text term)]
  | pattern field form => .ofKind "wildcard" [("field", .text field), ("pattern", .text form)]
  | tag field values negate =>
    .ofKind "tag"
      [("field", .text field), ("values", Document.ofTexts values), ("negate", .bool negate)]
  | numeric field comparison value =>
    .ofKind "numeric"
      [("field", .text field), ("op", .text (comparisonName comparison)),
        ("value", Document.ofDouble value)]
  | range field min max inclusive =>
    .ofKind "range"
      [("field", .text field), ("min", Document.ofDouble min), ("max", Document.ofDouble max),
        ("inclusive", Keyword.toDocument inclusive)]
  | geoRadius field lon lat radius unit outside =>
    .ofKind "geo_radius"
      [("field", .text field), ("lon", Document.ofDouble lon), ("lat", Document.ofDouble lat),
        ("radius", Document.ofDouble radius), ("unit", Keyword.toDocument unit),
        ("outside", .bool outside)]
  | geoBox field minLon minLat maxLon maxLat =>
    .ofKind "geo_box"
      [("field", .text field), ("min_lon", Document.ofDouble minLon),
        ("min_lat", Document.ofDouble minLat), ("max_lon", Document.ofDouble maxLon),
        ("max_lat", Document.ofDouble maxLat)]
  | custom field expression =>
    .ofKind "custom" [("field", .text field), ("expression", .text expression)]
  | matchAll => .ofKind "match_all" []
  | all operands => .ofKind "and" [("filters", .list (toDocuments operands))]
  | any operands => .ofKind "or" [("filters", .list (toDocuments operands))]
  | not operand => .ofKind "not" [("filter", toDocument operand)]

/-- Filters as documents, in order. -/
def toDocuments : List FilterSpec → List Document
  | [] => []
  | operand :: operands => toDocument operand :: toDocuments operands

end

end FilterSpec

/-! ## Restrictions -/

/-- A restriction before it is checked. -/
inductive RestrictionSpec where
  | raw (fragment : String)
  | tree (filter : FilterSpec)

namespace RestrictionSpec

/-- The restriction of a document. -/
def ofDocument? : Document → Option RestrictionSpec
  | .text fragment => some (raw fragment)
  | d => (FilterSpec.ofDocument? d).map tree

/-- A restriction as a document. -/
def toDocument : RestrictionSpec → Document
  | raw fragment => .text fragment
  | tree filter => filter.toDocument

/-- The restriction that a specification describes. -/
def toRestriction : RestrictionSpec → Except Invalid Restriction
  | raw fragment => .ok (.raw fragment)
  | tree filter => do return .tree (← filter.toFilter)

/-- The restriction that a specification describes, if it has one. -/
def orNone : Option RestrictionSpec → Except Invalid Restriction
  | some spec => spec.toRestriction
  | none => .ok .none

end RestrictionSpec

end SearchQuery
