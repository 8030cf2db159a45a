import SearchQuery.Proofs.Binary.Widening

/-!
# Integers among binary numbers

A small integer is a number of the format and is rounded to itself
(`Binary.toRat_ofInt`). How small is for the format to say: the integer has
to fit the fraction with its leading digit, and the unit one has to be a
unit of the format.
-/

namespace SearchQuery

namespace Format

/-- One is a whole number of subnormal units, and integers that fit the
fraction stay clear of the last exponent. -/
structure HoldsIntegers (f : Format) : Prop where
  minExponent_nonpos : f.minExponent ≤ 0
  unit_le : (0 - f.minExponent).toNat + 2 ≤ 2 ^ f.exponentBits - 1

theorem single_holdsIntegers : single.HoldsIntegers := by
  constructor <;> decide

theorem double_holdsIntegers : double.HoldsIntegers := by
  constructor <;> decide

end Format

namespace Binary

variable {f : Format}

/-- A natural number that fits the fraction is a number of the format. -/
theorem ofMagnitude_natCast (h : f.HoldsIntegers) {n : Nat} (hn : n < 2 * f.fractions)
    (negative : Bool) :
    (ofMagnitude negative (n : Rat) : Binary f).isFinite = true ∧
      (ofMagnitude negative (n : Rat) : Binary f).negative = negative ∧
      (ofMagnitude negative (n : Rat) : Binary f).magnitude = n := by
  have hmin := h.minExponent_nonpos
  have hunit := h.unit_le
  obtain ⟨m, unit, hm, hvalue, hle⟩ := Format.exists_isCanonical hn hmin
  have hlog : n.log2 ≤ f.fractionBits := by
    obtain hzero | hpos := Nat.eq_zero_or_pos n
    · rw [hzero]
      exact Nat.zero_le _
    · rw [Format.fractions_eq, ← Nat.pow_succ', ← Nat.log2_lt hpos.ne'] at hn
      omega
  have hlt : f.ordinalOf m unit < f.infinity := hm.ordinalOf_lt (by omega)
  refine ofMagnitude_of_isCanonical hm hlt negative ?_
  rw [hvalue, zpow_zero, mul_one]

/-- An integer that fits the fraction keeps its value. -/
theorem toRat_ofInt (h : f.HoldsIntegers) {n : Int} (hn : n.natAbs < 2 * f.fractions) :
    (ofInt n : Binary f).isFinite = true ∧ (ofInt n : Binary f).toRat = n := by
  rw [ofInt, ofRat]
  split
  · next hneg =>
    have hcast : -(n : Rat) = (n.natAbs : Rat) := by
      have hn0 : n < 0 := by exact_mod_cast hneg
      rw [← Int.cast_natCast, Int.ofNat_natAbs_of_nonpos hn0.le, Int.cast_neg]
    rw [hcast]
    obtain ⟨hfinite, hnegative, hmagnitude⟩ := ofMagnitude_natCast h hn true
    refine ⟨hfinite, ?_⟩
    rw [toRat, hnegative, if_pos rfl, hmagnitude, ← hcast, neg_neg]
  · next hnonneg =>
    have hcast : (n : Rat) = (n.natAbs : Rat) := by
      have hn0 : 0 ≤ n := by exact_mod_cast not_lt.mp hnonneg
      rw [← Int.cast_natCast, Int.natAbs_of_nonneg hn0]
    rw [hcast]
    obtain ⟨hfinite, hnegative, hmagnitude⟩ := ofMagnitude_natCast h hn false
    refine ⟨hfinite, ?_⟩
    rw [toRat, hnegative, if_neg Bool.false_ne_true, hmagnitude]

end Binary

end SearchQuery
