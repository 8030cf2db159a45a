/-!
# Binary floating-point numbers

A number format is given by the widths of its two magnitude fields. A
number of a format is a sign and an ORDINAL: the exponent and fraction
fields read as one natural number. Ordinals order the magnitudes — zero,
the subnormal numbers, the normal ones, infinity, and above infinity the
patterns that are not numbers — so comparison, rounding and neighbourhood
are statements about natural numbers and never about machine arithmetic.

Every number but the exceptional ones has an exact rational value, and
nothing here rounds. Rounding is `Binary.ofRat`, in the module beside
this one.
-/

namespace SearchQuery

/-- A binary interchange format: a sign bit, an exponent field and a
fraction field, of the widths given here. -/
structure Format where
  /-- Width of the exponent field. -/
  exponentBits : Nat
  /-- Width of the fraction field, the leading one not counted. -/
  fractionBits : Nat
deriving DecidableEq, Repr

namespace Format

/-- Double precision: 64 bits. -/
def double : Format := ⟨11, 52⟩

/-- Single precision: 32 bits. -/
def single : Format := ⟨8, 23⟩

/-- Half precision: 16 bits. -/
def half : Format := ⟨5, 10⟩

/-- The upper half of single precision: 16 bits, the same exponents. -/
def brain : Format := ⟨8, 7⟩

/-- How many fractions share an exponent. -/
def fractions (f : Format) : Nat := 1 <<< f.fractionBits

/-- How many patterns a sign leaves. -/
def ordinals (f : Format) : Nat := 1 <<< (f.exponentBits + f.fractionBits)

/-- The ordinal of infinity: the last exponent, with an empty fraction. -/
def infinity (f : Format) : Nat := f.ordinals - f.fractions

/-- The fraction bit that marks a quiet pattern among those that are not
numbers. -/
def quiet (f : Format) : Nat := 1 <<< (f.fractionBits - 1)

/-- The exponent of the last place of the subnormal numbers. -/
def minExponent (f : Format) : Int :=
  2 - (1 <<< (f.exponentBits - 1) : Nat) - (f.fractionBits : Int)

/-- How many bytes a number of the format takes. -/
def byteWidth (f : Format) : Nat := (1 + f.exponentBits + f.fractionBits) / 8

end Format

/-- A number of a format: a sign and an ordinal. -/
@[ext] structure Binary (f : Format) where
  /-- The sign bit. -/
  negative : Bool
  /-- The exponent and fraction fields, as one number. -/
  ordinal : Nat
  /-- The fields fit their widths. -/
  ordinal_lt : ordinal < f.ordinals
deriving DecidableEq

/-- Double-precision numbers. -/
abbrev Double : Type := Binary Format.double

/-- Single-precision numbers. -/
abbrev Single : Type := Binary Format.single

namespace Binary

variable {f : Format}

/-! ## Patterns -/

/-- The number of a sign and an ordinal; an ordinal too large for the
format stands for infinity. -/
def ofOrdinal (negative : Bool) (n : Nat) : Binary f :=
  if h : n < f.infinity then
    ⟨negative, n, Nat.lt_of_lt_of_le h (Nat.sub_le _ _)⟩
  else
    ⟨negative, f.infinity,
      Nat.sub_lt (by simp [Format.ordinals]) (by simp [Format.fractions])⟩

/-- The pattern of all fields as one number, the sign uppermost. -/
def toBits (x : Binary f) : Nat :=
  (if x.negative then f.ordinals else 0) + x.ordinal

/-- The number with these fields; bits above the sign are dropped. -/
def ofBits (n : Nat) : Binary f :=
  ⟨n / f.ordinals % 2 == 1, n % f.ordinals, Nat.mod_lt _ (by simp [Format.ordinals])⟩

/-- The zero of a sign. -/
def signedZero (negative : Bool) : Binary f := ⟨negative, 0, by simp [Format.ordinals]⟩

/-- Positive zero. -/
def zero : Binary f := signedZero false

instance : Inhabited (Binary f) := ⟨zero⟩

/-- The same magnitude with the other sign. -/
def neg (x : Binary f) : Binary f := { x with negative := !x.negative }

/-! ## Kinds of numbers -/

/-- The pattern is not a number. -/
def isNaN (x : Binary f) : Bool := f.infinity < x.ordinal

/-- One of the two infinities. -/
def isInfinite (x : Binary f) : Bool := x.ordinal == f.infinity

/-- A number with an exact value. -/
def isFinite (x : Binary f) : Bool := x.ordinal < f.infinity

/-- One of the two zeros. -/
def isZero (x : Binary f) : Bool := x.ordinal == 0

/-! ## Exact values -/

/-- The exponent field. -/
def exponentField (x : Binary f) : Nat := x.ordinal / f.fractions

/-- The whole number of units in the last place. -/
def significand (x : Binary f) : Nat :=
  (if x.exponentField == 0 then 0 else f.fractions) + x.ordinal % f.fractions

/-- The exponent of the unit in the last place. -/
def exponent (x : Binary f) : Int :=
  f.minExponent + (x.exponentField - 1 : Nat)

/-- The exact magnitude of a finite number. -/
def magnitude (x : Binary f) : Rat :=
  (x.significand : Rat) * Rat.zpow 2 x.exponent

/-- The exact value of a finite number. -/
def toRat (x : Binary f) : Rat :=
  if x.negative then -x.magnitude else x.magnitude

/-! ## Order

Within a format the ordinals order the magnitudes, so numbers compare by
their signed ordinals. The two zeros are equal, and what is not a number
compares with nothing. -/

/-- The ordinal with the number's sign. -/
def rank (x : Binary f) : Int := if x.negative then -(x.ordinal : Int) else x.ordinal

/-- Strictly less. -/
def lt (x y : Binary f) : Bool := !x.isNaN && !y.isNaN && x.rank < y.rank

/-- Less or equal. -/
def le (x y : Binary f) : Bool := !x.isNaN && !y.isNaN && x.rank ≤ y.rank

/-- Equal as numbers. -/
def eq (x y : Binary f) : Bool := !x.isNaN && !y.isNaN && x.rank == y.rank

/-- Greater than zero. -/
def isPositive (x : Binary f) : Bool := lt zero x

end Binary

end SearchQuery
