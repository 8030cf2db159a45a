import SearchQuery.Filter.Field

/-!
# Conditions on numbers

A numeric condition is a range of a field. A parenthesis before a bound
leaves the bound itself out. An infinite bound leaves that end open and
never takes the parenthesis. A bound that is not a number is refused,
since nothing compares with it.
-/

namespace SearchQuery

/-- Which ends of a range belong to it. -/
inductive Inclusive where
  | both
  | neither
  | left
  | right
deriving DecidableEq, Repr

namespace Inclusive

/-- The canonical name. -/
def name : Inclusive → String
  | both => "both"
  | neither => "neither"
  | left => "left"
  | right => "right"

instance : Keyword Inclusive where
  kind := "range inclusivity"
  all := [both, neither, left, right]
  name := name

/-- The lower end belongs to the range. -/
def includesMin : Inclusive → Bool
  | both | left => true
  | neither | right => false

/-- The upper end belongs to the range. -/
def includesMax : Inclusive → Bool
  | both | right => true
  | neither | left => false

end Inclusive

/-- A comparison of a field with a number. -/
inductive Comparison where
  | eq
  | ne
  | gt
  | gte
  | lt
  | lte
deriving DecidableEq, Repr

namespace Filter

/-- A number that can bound a range. -/
def comparable (x : Double) : Except Invalid Double :=
  if x.isNaN then .error (.outOfRange "numeric value" .notComparable) else .ok x

/-- A bound as it stands in a range. -/
def bound (x : Double) (included : Bool) : String :=
  if included || x.isInfinite then Double.literal x else "(" ++ Double.literal x

/-- The range between two numbers. -/
def numericRange (ref : String) (min max : Double) (inclusive : Inclusive) : String :=
  ref ++ ":[" ++ bound min inclusive.includesMin ++ " " ++ bound max inclusive.includesMax ++ "]"

/-- The range that a comparison describes. -/
def comparisonRange (ref : String) (c : Comparison) (x : Double) : String :=
  match c with
  | .eq => numericRange ref x x .both
  | .ne => "-" ++ numericRange ref x x .both
  | .gt => numericRange ref x (Binary.infinity false) .right
  | .gte => numericRange ref x (Binary.infinity false) .both
  | .lt => numericRange ref (Binary.infinity true) x .left
  | .lte => numericRange ref (Binary.infinity true) x .both

/-- The field compares with a number in this way. -/
def compare (field : String) (c : Comparison) (x : Double) : Except Invalid Filter := do
  let ref ← fieldRef field
  let x ← comparable x
  return leaf ⟨.numeric, field, comparisonRange ref c x⟩

/-- The field lies between two numbers, of which the first is not the
greater. -/
def between (field : String) (min max : Double) (inclusive : Inclusive) :
    Except Invalid Filter := do
  let ref ← fieldRef field
  let min ← comparable min
  let max ← comparable max
  if max.lt min then
    throw (.outOfRange "numeric range" (.minAboveMax min max))
  return leaf ⟨.numeric, field, numericRange ref min max inclusive⟩

end Filter

end SearchQuery
