import SearchQuery.Decimal.Basic

/-!
# The shortest decimal of a binary number

Among the decimals that round to a binary number, `Binary.shortest` gives
one with the fewest digits and, of those, the nearest. The search goes
down through the decimal grids, from a unit that exceeds the number, and
on each grid looks only at the number's two neighbours: if any point of a
grid rounds to the number, one of these two does. The finer grid is tried
only when the coarser has no such point. Two neighbours at one distance are a
tie, and what writes the number says how it goes (`Tie`): a message takes
the greater magnitude.
-/

namespace SearchQuery

/-- The choice between two neighbours on a grid that lie at one distance. -/
inductive Tie where
  /-- the neighbour of greater magnitude -/
  | away
  /-- the neighbour whose last digit is even -/
  | even
deriving DecidableEq, Repr

/-- The neighbour that is taken of a number of units and the next. -/
def Tie.choose : Tie → Nat → Nat
  | .away, low => low + 1
  | .even, low => low + low % 2

namespace Binary

variable {f : Format}

/-- Reading a magnitude gives this number. -/
def readsBack (x : Binary f) (magnitude : Rat) : Bool :=
  f.nearest magnitude == x.ordinal

/-- The neighbour, on the grid of a power of ten, that reads back, and the
nearer one if both do. -/
def onGrid? (tie : Tie) (x : Binary f) (exponent : Int) : Option Nat :=
  let unit := Rat.zpow 10 exponent
  let low := (x.magnitude / unit).floor.toNat
  let below := x.magnitude - (low : Rat) * unit
  let above := (low + 1 : Nat) * unit - x.magnitude
  match x.readsBack (low * unit), x.readsBack ((low + 1 : Nat) * unit) with
  | true, true =>
    some (if below < above then low else if above < below then low + 1 else tie.choose low)
  | true, false => some low
  | false, true => some (low + 1)
  | false, false => none

/-- A power of ten that reaches the magnitude of a number, at most ten
times as large. -/
def decimalTop (x : Binary f) : Int :=
  if 1 ≤ x.magnitude then (Nat.toDigits 10 x.magnitude.floor.toNat).length
  else 1 - (Nat.toDigits 10 (1 / x.magnitude).floor.toNat).length

/-- The shortest decimal that reads back as a finite number. Each grid is
ten times finer than the one before, so the grids run out only after the
number itself lies between two points that read back. -/
def shortest (tie : Tie) (x : Binary f) : Decimal :=
  if x.isZero then ⟨x.negative, 0, 0⟩
  else
    let grids := List.range (f.fractionBits + 4)
    let found := grids.findSome? fun (step : Nat) =>
      (x.onGrid? tie (x.decimalTop - step)).map (⟨x.negative, ·, x.decimalTop - step⟩)
    found.getD ⟨x.negative, 0, 0⟩

/-- A number as it stands in a message: the shortest digits that read back,
a tie going away from zero, with the sign of a zero, and words for what is
not finite. -/
def display (x : Binary f) : String :=
  if x.isNaN then "NaN"
  else if x.isInfinite then (if x.negative then "-inf" else "inf")
  else String.ofList (x.shortest .away).text

end Binary

end SearchQuery
