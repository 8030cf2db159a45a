import SearchQuery.Decimal.Shortest

/-!
# Number literals of a query

Every number that stands in a query string is written by one of three
rules, and none of them writes an exponent, a `NaN` of an accepted number,
or a negative zero.

- `Double.literal`: the shortest digits that read back, with `+inf` and
  `-inf` for the open ends of a range.
- `Double.fixed`: a given number of places, rounded from the exact value, a
  tie going to the even digit.
- `Double.trimmed`: ten places without the trailing zeros, which hides the
  noise of a subtraction such as `1 - 0.7`.
-/

namespace SearchQuery

namespace Double

/-- The literal of a number: shortest digits, `0` for both zeros, and the
sentinels of an open range for the infinities. -/
def literal (x : Double) : String :=
  if x.isInfinite then (if x.negative then "-inf" else "+inf")
  else if x.isZero then "0"
  else x.display

/-- The nearest multiple of a decimal unit to a finite number. A multiple
of zero has no sign. -/
def rounded (places : Nat) (x : Double) : Decimal :=
  let units := roundEven (x.magnitude * Rat.pow 10 places)
  ⟨x.negative && units != 0, units, -(places : Int)⟩

/-- A number with a fixed count of places. -/
def fixed (places : Nat) (x : Double) : String :=
  if x.isFinite then String.ofList (x.rounded places).text else x.display

/-- A numeral without the zeros that end its fraction, nor a point with
nothing behind it. -/
def trimFraction (cs : List Char) : List Char :=
  if cs.contains '.' then
    ((cs.reverse.dropWhile (· == '0')).dropWhile (· == '.')).reverse
  else cs

/-- A number with at most ten places. -/
def trimmed (x : Double) : String :=
  String.ofList (trimFraction (x.fixed 10).toList)

end Double

end SearchQuery
