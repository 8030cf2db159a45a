import SearchQuery.Binary.Format

/-!
# Rounding to a binary format

`Format.nearest` takes a rational magnitude to the ordinal of the nearest
number of a format, a tie going to the even one. Everything that leaves a
format's own numbers goes through it: reading a decimal, narrowing,
adding, multiplying.

The unit in the last place is chosen first — as large as the format's
precision asks, never below the subnormal unit — and the magnitude is
rounded to a whole number of units. A carry into the next exponent needs
no case of its own: ordinals are consecutive across exponents.
-/

namespace SearchQuery

/-- The nearest whole number to a non-negative rational, a tie going to
the even one. -/
def roundEven (x : Rat) : Nat :=
  let low := x.floor.toNat
  let rest := x - (low : Rat)
  if rest < 1 / 2 then low
  else if 1 / 2 < rest then low + 1
  else if low % 2 == 0 then low
  else low + 1

/-- The exponent of the leading binary digit of a positive rational. -/
def binaryExponent (x : Rat) : Int :=
  let estimate : Int := (x.num.toNat.log2 : Int) - (x.den.log2 : Int)
  if x < Rat.zpow 2 estimate then estimate - 1 else estimate

namespace Format

/-- The exponent of the unit to which a positive magnitude is rounded. -/
def unitExponent (f : Format) (x : Rat) : Int :=
  max (binaryExponent x - f.fractionBits) f.minExponent

/-- The ordinal of the number nearest to a magnitude, a tie going to the
even one. It may pass that of infinity. -/
def nearest (f : Format) (x : Rat) : Nat :=
  if x ≤ 0 then 0
  else
    let unit := f.unitExponent x
    (unit - f.minExponent).toNat * f.fractions + roundEven (x / Rat.zpow 2 unit)

end Format

namespace Binary

variable {f g : Format}

/-- The number nearest to a signed magnitude. A magnitude that rounds past
the largest number gives infinity. -/
def ofMagnitude (negative : Bool) (x : Rat) : Binary f :=
  ofOrdinal negative (f.nearest x)

/-- The number nearest to a rational; zero is positive. -/
def ofRat (x : Rat) : Binary f :=
  if x < 0 then ofMagnitude true (-x) else ofMagnitude false x

/-- The number nearest to an integer. -/
def ofInt (n : Int) : Binary f := ofRat (n : Rat)

/-- A quiet pattern that is not a number. -/
def nan : Binary f :=
  ⟨false, (f.infinity + f.quiet) % f.ordinals, Nat.mod_lt _ (by simp [Format.ordinals])⟩

/-- Infinity of a sign. -/
def infinity (negative : Bool) : Binary f := ofOrdinal negative f.infinity

/-! ## Change of format -/

/-- The fraction of a pattern that is not a number, carried from one
format to another: the leading bits are kept and the result is quiet. -/
def quietFraction (f g : Format) (fraction : Nat) : Nat :=
  ((fraction <<< g.fractionBits) >>> f.fractionBits) ||| g.quiet

/-- The nearest number of another format. Infinities keep their sign, and
what is not a number keeps its sign and its leading fraction bits. -/
def convert (x : Binary f) : Binary g :=
  if x.isNaN then
    ofBits ((if x.negative then g.ordinals else 0) + g.infinity
      + quietFraction f g (x.ordinal % f.fractions))
  else if x.isInfinite then infinity x.negative
  else ofMagnitude x.negative x.magnitude

/-! ## Arithmetic

Each operation gives the number nearest to the exact result. An exact sum
of zero is negative only when both terms are negative zeros. -/

/-- Sum. -/
def add (x y : Binary f) : Binary f :=
  if x.isNaN || y.isNaN then nan
  else if x.isInfinite then
    if y.isInfinite && x.negative != y.negative then nan else x
  else if y.isInfinite then y
  else
    let sum := x.toRat + y.toRat
    if sum == 0 then signedZero (x.negative && y.negative) else ofRat sum

/-- Difference. -/
def sub (x y : Binary f) : Binary f := x.add y.neg

/-- Product. -/
def mul (x y : Binary f) : Binary f :=
  let negative := x.negative != y.negative
  if x.isNaN || y.isNaN then nan
  else if x.isInfinite || y.isInfinite then
    if x.isZero || y.isZero then nan else infinity negative
  else ofMagnitude negative (x.magnitude * y.magnitude)

/-- Half of a number. -/
def half (x : Binary f) : Binary f := x.mul (ofRat (1 / 2))

end Binary

end SearchQuery
