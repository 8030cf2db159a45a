import SearchQuery.Decimal.Literal
import SearchQuery.Proofs.Binary.Nearest
import SearchQuery.Proofs.Decimal.Numeral

/-!
# Rounding to places

A number is rounded to so many places by taking the nearest multiple of the
unit of the last place, and the even one of two that are as near
(`Double.isNearestMultiple_rounded`).

What follows of a rounded number follows from its being nearest, and not from
how it was found: it is half a unit away at most
(`IsNearestMultiple.abs_sub_le`), a greater number is not rounded to less
(`IsNearestMultiple.le_of_le`), and so a bound that is a multiple of the unit
is a bound of what is rounded too.
-/

namespace SearchQuery

/-! ## Nearest multiples -/

/-- No other multiple of a unit is nearer to a value, and if another is as
near this one is even. -/
def IsNearestMultiple (unit : Rat) (n : Int) (q : Rat) : Prop :=
  ∀ m : Int, m ≠ n →
    |n * unit - q| < |m * unit - q| ∨ (|n * unit - q| = |m * unit - q| ∧ 2 ∣ n)

namespace IsNearestMultiple

variable {unit q r : Rat} {n m : Int}

/-- Multiples are ordered as their factors are. -/
theorem mul_unit_lt_iff (hunit : 0 < unit) : (m : Rat) * unit < n * unit ↔ m < n := by
  rw [mul_lt_mul_iff_left₀ hunit, Int.cast_lt]

theorem mul_unit_le_iff (hunit : 0 < unit) : (m : Rat) * unit ≤ n * unit ↔ m ≤ n := by
  rw [mul_le_mul_iff_left₀ hunit, Int.cast_le]

/-- No other multiple is nearer. -/
theorem le (h : IsNearestMultiple unit n q) (m : Int) : |n * unit - q| ≤ |m * unit - q| := by
  by_cases hsame : m = n
  · rw [hsame]
  · obtain hless | ⟨heq, -⟩ := h m hsame
    · exact hless.le
    · exact heq.le

/-- A multiple is the nearest to itself. -/
theorem self (hunit : 0 < unit) (n : Int) : IsNearestMultiple unit n (n * unit) := by
  intro m hm
  left
  rw [sub_self, abs_zero, abs_pos, ← sub_mul]
  have hapart : (m : Rat) - n ≠ 0 := sub_ne_zero.mpr (by exact_mod_cast hm)
  exact mul_ne_zero hapart hunit.ne'

/-- Values of opposite signs have opposite multiples nearest. -/
theorem neg (h : IsNearestMultiple unit n q) : IsNearestMultiple unit (-n) (-q) := by
  have hdistance : ∀ k : Int, |((-k : Int) : Rat) * unit - -q| = |k * unit - q| := by
    intro k
    rw [← abs_neg]
    congr 1
    push_cast
    ring
  intro m hm
  have hother : -m ≠ n := by omega
  rw [← neg_neg m, hdistance, hdistance, dvd_neg]
  exact h (-m) hother

/-- **Half a unit is the most that rounding changes**: beyond it the next
multiple would be nearer. -/
theorem abs_sub_le (hunit : 0 < unit) (h : IsNearestMultiple unit n q) :
    |n * unit - q| ≤ unit / 2 := by
  have habove := h.le (n + 1)
  have hbelow := h.le (n - 1)
  push_cast at habove hbelow
  rw [add_mul, one_mul] at habove
  rw [sub_mul, one_mul] at hbelow
  generalize (n : Rat) * unit = a at *
  rw [abs_le]
  constructor
  · by_contra hfar
    rw [abs_of_neg (by linarith : a - q < 0)] at habove
    obtain hpast | hshort := abs_cases (a + unit - q) <;> linarith
  · by_contra hfar
    rw [abs_of_pos (by linarith : 0 < a - q)] at hbelow
    obtain hpast | hshort := abs_cases (a - unit - q) <;> linarith

/-- Values in order whose nearest multiples are the wrong way round lie both in
the middle of the two. -/
theorem eq_middle_of_lt (hunit : 0 < unit) (hn : IsNearestMultiple unit n q)
    (hm : IsNearestMultiple unit m r) (h : q ≤ r) (hless : m < n) :
    q = (m * unit + n * unit) / 2 ∧ r = (m * unit + n * unit) / 2 := by
  have hgap := (mul_unit_lt_iff hunit).mpr hless
  have hnle := hn.le m
  have hmle := hm.le n
  have hqhigh : (m * unit + n * unit) / 2 ≤ q := by
    by_contra hlow
    rw [abs_of_pos (by linarith : 0 < (n : Rat) * unit - q), le_abs] at hnle
    obtain hnle | hnle := hnle <;> linarith
  have hrlow : r ≤ (m * unit + n * unit) / 2 := by
    by_contra hhigh
    rw [abs_of_neg (by linarith : (m : Rat) * unit - r < 0), le_abs] at hmle
    obtain hmle | hmle := hmle <;> linarith
  exact ⟨by linarith, by linarith⟩

/-- A middle is that of neighbours, and the even one of them is the nearest. -/
theorem eq_add_one_of_middle (hunit : 0 < unit) (hn : IsNearestMultiple unit n q) (hless : m < n)
    (hq : q = (m * unit + n * unit) / 2) : n = m + 1 ∧ 2 ∣ n := by
  have hgap := (mul_unit_lt_iff hunit).mpr hless
  have hdistance : |(n : Rat) * unit - q| = (n * unit - m * unit) / 2 := by
    rw [abs_of_pos (by linarith)]
    linarith
  constructor
  · by_contra hother
    -- the multiple before it would lie between the two, and so be nearer
    have hbetween := (mul_unit_lt_iff hunit).mpr (by omega : m < n - 1)
    have hnext := hn.le (n - 1)
    push_cast at hbetween hnext
    rw [sub_mul, one_mul] at hbetween hnext
    rw [hdistance, le_abs] at hnext
    obtain hnext | hnext := hnext <;> linarith
  · refine ((hn m hless.ne).resolve_left ?_).2
    rw [hdistance, abs_of_neg (by linarith : (m : Rat) * unit - q < 0), not_lt]
    linarith

/-- **Rounding keeps the order.** Two neighbours are not both even. -/
theorem le_of_le (hunit : 0 < unit) (hn : IsNearestMultiple unit n q)
    (hm : IsNearestMultiple unit m r) (h : q ≤ r) : n ≤ m := by
  by_contra hmore
  have hless : m < n := not_le.mp hmore
  obtain ⟨hq, hr⟩ := eq_middle_of_lt hunit hn hm h hless
  obtain ⟨hnext, hneven⟩ := hn.eq_add_one_of_middle hunit hless hq
  have hopposite : -r = (((-n : Int) : Rat) * unit + ((-m : Int) : Rat) * unit) / 2 := by
    rw [hr]
    push_cast
    ring
  obtain ⟨-, hmeven⟩ := hm.neg.eq_add_one_of_middle hunit (neg_lt_neg hless) hopposite
  omega

/-- The middle above an even multiple is rounded down to it. -/
theorem middle (hunit : 0 < unit) (hn : 2 ∣ n) : IsNearestMultiple unit n ((n + 1 / 2) * unit) := by
  have hdistance : ∀ k : Int,
      |(k : Rat) * unit - (n + 1 / 2) * unit| = |(k : Rat) - (n + 1 / 2)| * unit := by
    intro k
    rw [← sub_mul, abs_mul, abs_of_pos hunit]
  intro m hm
  rw [hdistance, hdistance, sub_add_cancel_left, abs_neg, abs_of_pos one_half_pos]
  obtain rfl | hother := eq_or_ne m (n + 1)
  · right
    refine ⟨?_, hn⟩
    push_cast
    norm_num
  · left
    have hfar : (1 / 2 : Rat) < |(m : Rat) - (n + 1 / 2)| := by
      rw [lt_abs]
      obtain hless | hmore := lt_or_gt_of_ne hm
      · right
        have hcast : (m : Rat) + 1 ≤ n := by exact_mod_cast hless
        linarith
      · left
        have hcast : (n : Rat) + 2 ≤ m := by exact_mod_cast (by omega : n + 2 ≤ m)
        linarith
    gcongr

/-- A value is rounded to an even multiple at most if it does not pass the
middle above. -/
theorem le_iff_of_even (hunit : 0 < unit) (h : IsNearestMultiple unit n q) (hm : 2 ∣ m) :
    n ≤ m ↔ q ≤ (m + 1 / 2) * unit := by
  refine ⟨fun hle => ?_, h.le_of_le hunit (middle hunit hm)⟩
  by_contra hpast
  have hnext := h.le (m + 1)
  have hbelow := (mul_unit_le_iff hunit).mpr hle
  push_cast at hnext
  rw [add_mul] at hpast hnext
  rw [abs_of_neg (by linarith : (n : Rat) * unit - q < 0), le_abs] at hnext
  obtain hnext | hnext := hnext <;> linarith

end IsNearestMultiple

/-! ## Rounded numbers -/

namespace Decimal

/-- The exact value. -/
def toRat (d : Decimal) : Rat := if d.negative then -d.magnitude else d.magnitude

/-- The number of units, with its sign. -/
def units (d : Decimal) : Int := if d.negative then -(d.digits : Int) else d.digits

/-- A decimal is its signed digits times a power of ten. -/
theorem toRat_eq (d : Decimal) : d.toRat = d.units * 10 ^ d.exponent := by
  rw [toRat, units, magnitude]
  cases d.negative with
  | true =>
    rw [if_pos rfl, if_pos rfl]
    push_cast
    exact (neg_mul _ _).symm
  | false =>
    rw [if_neg Bool.false_ne_true, if_neg Bool.false_ne_true]
    push_cast
    rfl

end Decimal

/-- The unit of the last of so many places. -/
def placeUnit (places : Nat) : Rat := 10 ^ (-(places : Int))

theorem placeUnit_pos (places : Nat) : 0 < placeUnit places := zpow_pos (by norm_num) _

namespace Double

variable {places : Nat} {x y : Double}

/-- A rounded number is a whole number of units of its last place. -/
theorem toRat_rounded (places : Nat) (x : Double) :
    (x.rounded places).toRat = (x.rounded places).units * placeUnit places :=
  (x.rounded places).toRat_eq

/-- A number of no units loses its sign and keeps its units. -/
theorem units_rounded (places : Nat) (x : Double) :
    (x.rounded places).units =
      if x.negative then -(roundEven (x.magnitude * 10 ^ places) : Int)
      else roundEven (x.magnitude * 10 ^ places) := by
  have hpower : Rat.pow 10 places = (10 : Rat) ^ places := rfl
  rw [Decimal.units, rounded, hpower]
  generalize roundEven (x.magnitude * 10 ^ places) = n
  cases x.negative <;> cases n <;> simp

/-- A magnitude is rounded to the nearest multiple. -/
theorem isNearestMultiple_roundEven (places : Nat) {q : Rat} (hq : 0 ≤ q) :
    IsNearestMultiple (placeUnit places) (roundEven (q * 10 ^ places) : Nat) q := by
  have hunit := placeUnit_pos places
  have hscale : ∀ k : Int,
      |(k : Rat) * placeUnit places - q| = |(k : Rat) - q * 10 ^ places| * placeUnit places := by
    intro k
    have hinverse : (10 : Rat) ^ places * placeUnit places = 1 := by
      rw [placeUnit, zpow_neg, zpow_natCast]
      exact mul_inv_cancel₀ (by positivity)
    rw [← abs_of_pos hunit, ← abs_mul, abs_of_pos hunit, sub_mul, mul_assoc, hinverse, mul_one]
  intro m hm
  rw [hscale, hscale]
  obtain hless | ⟨hsame, heven⟩ := roundEven_nearest_int (by positivity : 0 ≤ q * 10 ^ places) hm
  · left
    exact mul_lt_mul_of_pos_right (by exact_mod_cast hless) hunit
  · right
    refine ⟨by rw [← hsame, Int.cast_natCast], by exact_mod_cast heven⟩

/-- The magnitude of a number is rounded to that of the rounded number. -/
theorem isNearestMultiple_digits (places : Nat) (x : Double) :
    IsNearestMultiple (placeUnit places) (x.rounded places).digits x.magnitude :=
  isNearestMultiple_roundEven places x.magnitude_nonneg

/-- A sign is all that a rounded number has besides its digits. -/
theorem abs_toRat_rounded (places : Nat) (x : Double) :
    |(x.rounded places).toRat| = (x.rounded places).digits * placeUnit places := by
  have hunit := placeUnit_pos places
  rw [toRat_rounded, abs_mul, abs_of_pos hunit, Decimal.units]
  split
  · rw [Int.cast_neg, abs_neg, Int.cast_natCast, Nat.abs_cast]
  · rw [Int.cast_natCast, Nat.abs_cast]

/-- **A number is rounded to the nearest multiple** of the unit of the last
place. -/
theorem isNearestMultiple_rounded (places : Nat) (x : Double) :
    IsNearestMultiple (placeUnit places) (x.rounded places).units x.toRat := by
  have hmagnitude := isNearestMultiple_roundEven places x.magnitude_nonneg
  rw [units_rounded, Binary.toRat]
  cases x.negative with
  | true => exact hmagnitude.neg
  | false => exact hmagnitude

/-- Rounding to places keeps the order. -/
theorem toRat_rounded_le (h : x.toRat ≤ y.toRat) :
    (x.rounded places).toRat ≤ (y.rounded places).toRat := by
  have hunit := placeUnit_pos places
  have hunits := (isNearestMultiple_rounded places x).le_of_le hunit
    (isNearestMultiple_rounded places y) h
  rw [toRat_rounded, toRat_rounded]
  gcongr

/-- Rounding to places changes half a unit at most. -/
theorem abs_toRat_rounded_sub_le (places : Nat) (x : Double) :
    |(x.rounded places).toRat - x.toRat| ≤ placeUnit places / 2 := by
  rw [toRat_rounded]
  exact (isNearestMultiple_rounded places x).abs_sub_le (placeUnit_pos places)

end Double

end SearchQuery
