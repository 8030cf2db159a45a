import SearchQuery.Filter.Geo
import SearchQuery.Filter.Numeric
import SearchQuery.Filter.Tag
import SearchQuery.Filter.Text

/-!
# Filter specifications

A specification is a filter as a caller writes it down: nothing in it has
been checked. `FilterSpec.toFilter` checks the parts from left to right,
the operands of a composite before the composite itself, and answers with
the first refusal.
-/

namespace SearchQuery

/-- A filter before it is checked. -/
inductive FilterSpec where
  | text (field value : String) (negate : Bool)
  | exact (field phrase : String)
  | startsWith (field beginning : String)
  | fuzzy (field term : String)
  | pattern (field form : String)
  | tag (field : String) (values : List String) (negate : Bool)
  | numeric (field : String) (comparison : Comparison) (value : Double)
  | range (field : String) (min max : Double) (inclusive : Inclusive)
  | geoRadius (field : String) (lon lat radius : Double) (unit : GeoUnit) (outside : Bool)
  | geoBox (field : String) (minLon minLat maxLon maxLat : Double)
  | custom (field expression : String)
  | matchAll
  | all (operands : List FilterSpec)
  | any (operands : List FilterSpec)
  | not (operand : FilterSpec)

namespace FilterSpec

mutual

/-- The filter that a specification describes. -/
def toFilter : FilterSpec → Except Invalid Filter
  | text field value negate =>
    if negate then Filter.textNot field value else Filter.text field value
  | exact field phrase => Filter.exact field phrase
  | startsWith field beginning => Filter.startsWith field beginning
  | fuzzy field term => Filter.fuzzy field term
  | pattern field form => Filter.pattern field form
  | tag field values negate =>
    if negate then Filter.tagNot field values else Filter.tag field values
  | numeric field comparison value => Filter.compare field comparison value
  | range field min max inclusive => Filter.between field min max inclusive
  | geoRadius field lon lat radius unit outside =>
    if outside then Filter.outsideRadius field lon lat radius unit
    else Filter.withinRadius field lon lat radius unit
  | geoBox field minLon minLat maxLon maxLat => Filter.withinBox field minLon minLat maxLon maxLat
  | custom field expression => Filter.custom field expression
  | matchAll => .ok Filter.matchAll
  | all operands => do Filter.allOf (← toFilters operands)
  | any operands => do Filter.anyOf (← toFilters operands)
  | not operand => do return Filter.not (← toFilter operand)

/-- The filters that specifications describe, in order. -/
def toFilters : List FilterSpec → Except Invalid (List Filter)
  | [] => .ok []
  | operand :: operands => do
    let filter ← toFilter operand
    let filters ← toFilters operands
    return filter :: filters

end

end FilterSpec

end SearchQuery
