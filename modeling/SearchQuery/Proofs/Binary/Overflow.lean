import SearchQuery.Proofs.Binary.Nearest

/-!
# Overflow

A format ends at its greatest finite number, and the pattern of infinity
stands where the next number would be. What is rounded reaches it from the
middle of the two on (`Format.nearest_lt_infinity_iff`): the middle itself is a
tie, and the greatest finite number is odd.
-/

namespace SearchQuery

namespace Format

variable {f : Format}

/-- The exponent of the unit of the greatest finite numbers. -/
def greatestUnit (f : Format) : Int := f.minExponent + ((2 ^ f.exponentBits - 3 : Nat) : Int)

/-- The least magnitude that is rounded to infinity: half a unit above the
greatest finite number. -/
def overflow (f : Format) : Rat := (2 * f.fractions - 1 / 2) * 2 ^ f.greatestUnit

/-- The format has normal numbers, and numbers between powers of two. -/
structure HasNormals (f : Format) : Prop where
  two_le : 2 ≤ f.exponentBits
  one_le : 1 ≤ f.fractionBits

/-- Halves have normal numbers, and some between powers of two. -/
theorem half_hasNormals : half.HasNormals := by
  constructor <;> decide

/-- Brain floats have normal numbers, and some between powers of two. -/
theorem brain_hasNormals : brain.HasNormals := by
  constructor <;> decide

/-- The fractions of an exponent are an even number. -/
theorem two_dvd_fractions (h : f.HasNormals) : 2 ∣ f.fractions := by
  rw [fractions_eq]
  exact dvd_pow_self 2 (by have := h.one_le; omega)

theorem three_le_two_pow (h : f.HasNormals) : 3 ≤ 2 ^ f.exponentBits :=
  calc 3 ≤ 2 ^ 2 := by decide
    _ ≤ 2 ^ f.exponentBits := Nat.pow_le_pow_right two_pos h.two_le

/-- The ordinals of one unit. -/
theorem ordinalOf_greatestUnit (n : Nat) :
    f.ordinalOf n f.greatestUnit = (2 ^ f.exponentBits - 3) * f.fractions + n := by
  rw [ordinalOf, greatestUnit, add_sub_cancel_left, Int.toNat_natCast]

/-- The ordinal of infinity, reached by a carry. -/
theorem infinity_eq_add (h : f.HasNormals) :
    f.infinity = (2 ^ f.exponentBits - 3) * f.fractions + 2 * f.fractions := by
  have hthree := three_le_two_pow h
  rw [infinity_eq, ← Nat.add_mul]
  congr 1
  omega

/-- The greatest finite number and the pattern of infinity lie half a unit
below and above the middle. -/
theorem magnitude_around_overflow (h : f.HasNormals) {greatest past : Binary f}
    (hgreatest : greatest.ordinal + 1 = f.infinity) (hpast : past.ordinal = f.infinity) :
    greatest.magnitude = f.overflow - 1 / 2 * 2 ^ f.greatestUnit ∧
      past.magnitude = f.overflow + 1 / 2 * 2 ^ f.greatestUnit := by
  have hpos := f.fractions_pos
  have hinfinity := infinity_eq_add h
  have hmin : f.minExponent ≤ f.greatestUnit := by
    rw [greatestUnit]
    omega
  have hbelow : f.IsCanonical (2 * f.fractions - 1) f.greatestUnit :=
    ⟨hmin, by omega, .inr (by omega)⟩
  have habove : f.IsCanonical f.fractions (f.greatestUnit + 1) := ⟨by omega, by omega, .inr le_rfl⟩
  have hcarry : f.ordinalOf f.fractions (f.greatestUnit + 1)
      = f.ordinalOf (2 * f.fractions) f.greatestUnit := by
    rw [ordinalOf, ordinalOf,
      show (f.greatestUnit + 1 - f.minExponent).toNat
        = (f.greatestUnit - f.minExponent).toNat + 1 by omega, Nat.succ_mul]
    omega
  constructor
  · rw [Binary.magnitude_of_ordinal_eq hbelow (by rw [ordinalOf_greatestUnit]; omega), overflow,
      Nat.cast_sub (by omega)]
    push_cast
    ring
  · rw [Binary.magnitude_of_ordinal_eq habove (by rw [hcarry, ordinalOf_greatestUnit]; omega),
      overflow, zpow_add_one₀ two_ne_zero]
    ring

/-- The two patterns on either side of the middle. -/
theorem exists_around_overflow (h : f.HasNormals) :
    ∃ greatest past : Binary f, greatest.ordinal + 1 = f.infinity ∧ past.ordinal = f.infinity := by
  have hpos := f.fractions_pos
  have hinfinity := infinity_eq_add h
  have hlt : f.infinity < f.ordinals := by
    rw [infinity] at hinfinity ⊢
    omega
  exact ⟨⟨false, f.infinity - 1, by omega⟩, ⟨false, f.infinity, hlt⟩, by simp only; omega, rfl⟩

/-- The middle is a tie, and goes to infinity. -/
theorem nearest_overflow (h : f.HasNormals) : f.nearest f.overflow = f.infinity := by
  obtain ⟨greatest, past, hgreatest, hpast⟩ := exists_around_overflow h
  obtain ⟨hbelow, habove⟩ := magnitude_around_overflow h hgreatest hpast
  have hhalf : 0 < 1 / 2 * (2 : Rat) ^ f.greatestUnit := mul_pos (by norm_num) (two_zpow_pos _)
  have hle : f.nearest f.overflow ≤ f.infinity := by
    rw [← hpast, ← past.nearest_magnitude]
    exact f.nearest_mono (by linarith)
  have hge : greatest.ordinal ≤ f.nearest f.overflow := by
    rw [← greatest.nearest_magnitude]
    exact f.nearest_mono (by linarith)
  by_contra hother
  -- otherwise the greatest finite number would be the even one
  have hsame : greatest.ordinal = f.nearest f.overflow := by omega
  have hnonneg : 0 ≤ f.overflow := by
    have hmagnitude := greatest.magnitude_nonneg
    linarith
  have hnearest := Binary.isNearest_of_ordinal_eq h.one_le hnonneg hsame past (by omega)
  rw [hbelow, habove, sub_sub_cancel_left, add_sub_cancel_left, abs_neg, lt_self_iff_false,
    false_or] at hnearest
  have heven : 2 ∣ f.infinity := by
    rw [infinity_eq]
    exact Dvd.dvd.mul_left (two_dvd_fractions h) _
  have hodd := hnearest.2
  omega

/-- **Overflow begins at the middle** above the greatest finite number. -/
theorem nearest_lt_infinity_iff (h : f.HasNormals) {q : Rat} :
    f.nearest q < f.infinity ↔ q < f.overflow := by
  constructor
  · intro hlt
    by_contra hle
    have hmono := f.nearest_mono (not_lt.mp hle)
    rw [nearest_overflow h] at hmono
    omega
  · intro hlt
    by_contra hle
    obtain ⟨greatest, past, hgreatest, hpast⟩ := exists_around_overflow h
    obtain ⟨hbelow, habove⟩ := magnitude_around_overflow h hgreatest hpast
    have hmono := f.nearest_mono hlt.le
    rw [nearest_overflow h] at hmono
    have hpositive : 0 ≤ q := by
      by_contra hneg
      rw [nearest, if_pos (not_le.mp hneg).le] at hle
      omega
    have hnearest := Binary.isNearest_of_ordinal_eq h.one_le hpositive
      (hpast.trans (by omega : f.infinity = f.nearest q))
    have hdistance := hnearest.le greatest
    have hhalf : 0 < (2 : Rat) ^ f.greatestUnit := two_zpow_pos _
    rw [habove, hbelow, abs_of_pos (by linarith), le_abs] at hdistance
    obtain hdistance | hdistance := hdistance <;> linarith

/-- From 65520 on a magnitude is rounded to the infinity of halves. -/
theorem overflow_half : half.overflow = 65520 := by
  have hunit : half.greatestUnit = 5 := by decide
  have hfractions : half.fractions = 1024 := by decide
  rw [overflow, hunit, hfractions]
  norm_num

/-- From this magnitude on, one is rounded to the infinity of brain floats. -/
theorem overflow_brain : brain.overflow = 511 * 2 ^ 119 := by
  have hunit : brain.greatestUnit = 120 := by decide
  have hfractions : brain.fractions = 128 := by decide
  rw [overflow, hunit, hfractions]
  norm_num

end Format

namespace Binary

variable {f g : Format}

/-- A number is made finite up to the infinity. -/
theorem isFinite_ofOrdinal_iff {negative : Bool} {n : Nat} :
    (ofOrdinal negative n : Binary f).isFinite = true ↔ n < f.infinity := by
  rw [isFinite, decide_eq_true_eq, ofOrdinal]
  split
  · next h => exact iff_of_true h h
  · next h => exact iff_of_false (lt_irrefl _) h

/-- An ordinal that is too large gives the infinity of the sign. -/
theorem ofOrdinal_of_le {n : Nat} (h : f.infinity ≤ n) (negative : Bool) :
    (ofOrdinal negative n : Binary f) = infinity negative := by
  rw [infinity, ofOrdinal, ofOrdinal, dif_neg (not_lt.mpr h), dif_neg (lt_irrefl _)]

/-- **A number stays finite in another format if it lies below overflow.** -/
theorem isFinite_convert_iff (h : g.HasNormals) {x : Binary f} (hx : x.isFinite = true) :
    (x.convert : Binary g).isFinite = true ↔ x.magnitude < g.overflow := by
  rw [convert_of_isFinite hx, isFinite_ofOrdinal_iff, Format.nearest_lt_infinity_iff h]

/-- Otherwise the infinity of its sign is taken. -/
theorem convert_of_overflow_le (h : g.HasNormals) {x : Binary f} (hx : x.isFinite = true)
    (hoverflow : g.overflow ≤ x.magnitude) : (x.convert : Binary g) = infinity x.negative := by
  have hle : g.infinity ≤ g.nearest x.magnitude := by
    rw [← not_lt, Format.nearest_lt_infinity_iff h, not_lt]
    exact hoverflow
  rw [convert_of_isFinite hx, ofOrdinal_of_le hle]

/-- What is narrowed and widened again is finite below overflow, and the
infinity of its sign from there on. -/
theorem convert_convert_around_overflow (hnormals : g.HasNormals) (hwidens : g.Widens f)
    {x : Binary f} (hx : x.isFinite = true) :
    (¬g.overflow ≤ x.magnitude → ((x.convert : Binary g).convert : Binary f).isFinite = true) ∧
      (g.overflow ≤ x.magnitude →
        ((x.convert : Binary g).convert : Binary f) = infinity x.negative) := by
  constructor
  · intro hbelow
    have hfinite := (isFinite_convert_iff hnormals hx).mpr (not_le.mp hbelow)
    exact (convert_of_widens hwidens hfinite).1
  · intro habove
    rw [convert_of_overflow_le hnormals hx habove, convert_infinity]

/-! ## Bounds

What is no greater than a finite number is not rounded past it. -/

/-- What is no greater than a finite number is rounded to a finite number. -/
theorem isFinite_ofMagnitude {limit : Binary f} (hlimit : limit.isFinite = true) {q : Rat}
    (hq : q ≤ limit.magnitude) (negative : Bool) :
    (ofMagnitude negative q : Binary f).isFinite = true := by
  have hmono := f.nearest_mono hq
  rw [nearest_magnitude] at hmono
  rw [ofMagnitude, isFinite_ofOrdinal_iff]
  exact hmono.trans_lt (of_decide_eq_true hlimit)

/-- What is no further from zero than a finite number is rounded to a finite
number. -/
theorem isFinite_ofRat {limit : Binary f} (hlimit : limit.isFinite = true) {q : Rat}
    (hq : |q| ≤ limit.magnitude) : (ofRat q : Binary f).isFinite = true := by
  rw [ofRat]
  split
  · exact isFinite_ofMagnitude hlimit ((neg_le_abs q).trans hq) true
  · exact isFinite_ofMagnitude hlimit ((le_abs_self q).trans hq) false

/-- The sum of finite numbers is the exact one, rounded. -/
theorem add_of_isFinite {x y : Binary f} (hx : x.isFinite = true) (hy : y.isFinite = true) :
    x.add y = if x.toRat + y.toRat == 0 then signedZero (x.negative && y.negative)
      else ofRat (x.toRat + y.toRat) := by
  obtain ⟨hxnan, hxinfinite⟩ := isNaN_and_isInfinite_of_isFinite hx
  obtain ⟨hynan, hyinfinite⟩ := isNaN_and_isInfinite_of_isFinite hy
  rw [add, hxnan, hynan, hxinfinite, hyinfinite]
  rfl

/-- The difference of finite numbers is finite if a finite number bounds it. -/
theorem isFinite_sub {limit x y : Binary f} (hlimit : limit.isFinite = true)
    (hx : x.isFinite = true) (hy : y.isFinite = true)
    (h : |x.toRat - y.toRat| ≤ limit.magnitude) : (x.sub y).isFinite = true := by
  have hneg : y.neg.isFinite = true := hy
  rw [sub, add_of_isFinite hx hneg, toRat_neg, ← sub_eq_add_neg]
  split
  · have hlt : limit.ordinal < f.infinity := of_decide_eq_true hlimit
    exact decide_eq_true (Nat.zero_lt_of_lt hlt)
  · exact isFinite_ofRat hlimit h

end Binary

end SearchQuery
