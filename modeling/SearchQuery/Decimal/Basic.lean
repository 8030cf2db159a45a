import SearchQuery.Binary.Rounding

/-!
# Decimals

A decimal is a sign, a whole number of units and the unit's power of ten.
It has two uses here: it is what the text of a number says before any
rounding, and it is what a binary number is written as. Writing is
positional and never uses an exponent.
-/

namespace SearchQuery

/-- A signed multiple of a power of ten. -/
structure Decimal where
  negative : Bool
  digits : Nat
  exponent : Int
deriving DecidableEq, Repr

namespace Decimal

/-- The exact magnitude. -/
def magnitude (d : Decimal) : Rat := (d.digits : Rat) * Rat.zpow 10 d.exponent

/-! ## Writing -/

/-- Leading zeros that bring a numeral to a least length. -/
def padded (length : Nat) (cs : List Char) : List Char :=
  List.replicate (length - cs.length) '0' ++ cs

/-- A whole number with its last digits behind a point. -/
def withPlaces (n places : Nat) : List Char :=
  let cs := padded (places + 1) (Nat.toDigits 10 n)
  cs.take (cs.length - places) ++ '.' :: cs.drop (cs.length - places)

/-- The magnitude in positional notation: a whole number has no point. -/
def positional (d : Decimal) : List Char :=
  if 0 ≤ d.exponent then Nat.toDigits 10 (d.digits * Nat.pow 10 d.exponent.toNat)
  else withPlaces d.digits (-d.exponent).toNat

/-- The decimal with its sign. -/
def text (d : Decimal) : List Char :=
  if d.negative then '-' :: d.positional else d.positional

/-! ## Rounding to binary

A numeral may carry any exponent. One that lies outside the range of the
format is settled by its leading digit alone, so that no power of ten has
to be formed that the answer does not need. -/

/-- The power of ten just above the magnitude of a decimal that is not
zero. -/
def top (d : Decimal) : Int := d.exponent + (Nat.toDigits 10 d.digits).length

/-- The number of a format nearest to a decimal. -/
def toBinary {f : Format} (d : Decimal) : Binary f :=
  if d.digits == 0 then Binary.signedZero d.negative
  else if (1 <<< (f.exponentBits - 1) : Nat) ≤ 3 * (d.top - 1) then Binary.infinity d.negative
  else if 3 * d.top < f.minExponent then Binary.signedZero d.negative
  else Binary.ofMagnitude d.negative d.magnitude

end Decimal

end SearchQuery
