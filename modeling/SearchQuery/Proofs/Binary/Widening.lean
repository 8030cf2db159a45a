import Mathlib.Algebra.Order.Field.Power
import Mathlib.Tactic.Linarith
import Mathlib.Tactic.Positivity
import Mathlib.Tactic.Ring
import SearchQuery.Binary.Rounding

/-!
# Rounding what needs none

A number that a format has is rounded to itself (`Binary.nearest_magnitude`).
So a finite number keeps its value in a wider format
(`Binary.convert_of_widens`), and narrowing takes back what widening made,
infinities included (`Binary.convert_convert`,
`Binary.convert_convert_of_not_isNaN`).

The argument is one of units. A magnitude is a whole number of units, and
at most one unit makes it canonical: the leading digit stands first in the
fraction, or the unit is the smallest there is (`Format.IsCanonical`).
Rounding chooses that unit, since the leading digit fixes it
(`binaryExponent_eq`), and the parts of a number are canonical as they are.
-/

namespace SearchQuery

/-! ## The leading digit -/

section LeadingDigit

variable {x : Rat}

theorem two_zpow_pos (e : Int) : 0 < (2 : Rat) ^ e := zpow_pos two_pos e

/-- A positive rational lies between the power of its leading digit and the
next one. The lengths of numerator and denominator leave two powers to
choose from. -/
theorem zpow_binaryExponent_le_and_lt (hx : 0 < x) :
    (2 : Rat) ^ binaryExponent x ≤ x ∧ x < 2 ^ (binaryExponent x + 1) := by
  have hnum : 0 < x.num := Rat.num_pos.mpr hx
  have hden : 0 < (x.den : Rat) := by exact_mod_cast x.den_pos
  have hquotient : x = (x.num.toNat : Rat) / x.den := by
    have hcast : ((x.num.toNat : Int) : Rat) = x.num := by rw [Int.toNat_of_nonneg hnum.le]
    rw [Int.cast_natCast] at hcast
    rw [hcast, Rat.num_div_den]
  set n := x.num.toNat with hn
  set a := n.log2
  set b := x.den.log2
  have hnlow : (2 : Rat) ^ (a : Int) ≤ n := by exact_mod_cast Nat.log2_self_le (by omega)
  have hnhigh : (n : Rat) < 2 ^ ((a : Int) + 1) := by exact_mod_cast Nat.lt_log2_self
  have hdlow : (2 : Rat) ^ (b : Int) ≤ x.den := by exact_mod_cast Nat.log2_self_le x.den_nz
  have hdhigh : (x.den : Rat) < 2 ^ ((b : Int) + 1) := by exact_mod_cast Nat.lt_log2_self
  have hlow : (2 : Rat) ^ ((a : Int) - b - 1) ≤ x := by
    rw [hquotient, le_div_iff₀ hden]
    calc (2 : Rat) ^ ((a : Int) - b - 1) * x.den
        ≤ 2 ^ ((a : Int) - b - 1) * 2 ^ ((b : Int) + 1) := by gcongr
      _ = 2 ^ (a : Int) := by rw [← zpow_add₀ two_ne_zero]; congr 1; ring
      _ ≤ n := hnlow
  have hhigh : x < (2 : Rat) ^ ((a : Int) - b + 1) := by
    rw [hquotient, div_lt_iff₀ hden]
    calc (n : Rat) < 2 ^ ((a : Int) + 1) := hnhigh
      _ = 2 ^ ((a : Int) - b + 1) * 2 ^ (b : Int) := by
        rw [← zpow_add₀ two_ne_zero]; congr 1; ring
      _ ≤ 2 ^ ((a : Int) - b + 1) * x.den := by gcongr
  have hchoice : binaryExponent x
      = if x < (2 : Rat) ^ ((a : Int) - b) then (a : Int) - b - 1 else (a : Int) - b := rfl
  rw [hchoice]
  split
  · next hbelow =>
    refine ⟨hlow, ?_⟩
    rw [Int.sub_add_cancel]
    exact hbelow
  · next habove => exact ⟨not_lt.mp habove, hhigh⟩

/-- No other power lies as close below. -/
theorem binaryExponent_eq {e : Int} (hlow : (2 : Rat) ^ e ≤ x) (hhigh : x < 2 ^ (e + 1)) :
    binaryExponent x = e := by
  obtain ⟨hlow', hhigh'⟩ := zpow_binaryExponent_le_and_lt (lt_of_lt_of_le (two_zpow_pos e) hlow)
  have hle : binaryExponent x < e + 1 :=
    (zpow_lt_zpow_iff_right₀ one_lt_two).mp (lt_of_le_of_lt hlow' hhigh)
  have hge : e < binaryExponent x + 1 :=
    (zpow_lt_zpow_iff_right₀ one_lt_two).mp (lt_of_le_of_lt hlow hhigh')
  omega

/-- The leading digit of a whole number of units. -/
theorem binaryExponent_natCast_mul {n : Nat} (hn : n ≠ 0) (e : Int) :
    binaryExponent ((n : Rat) * 2 ^ e) = n.log2 + e := by
  have hlow : (2 : Rat) ^ (n.log2 : Int) ≤ n := by exact_mod_cast Nat.log2_self_le hn
  have hhigh : (n : Rat) < 2 ^ ((n.log2 : Int) + 1) := by exact_mod_cast Nat.lt_log2_self
  have hpos := two_zpow_pos e
  apply binaryExponent_eq
  · rw [zpow_add₀ two_ne_zero]
    gcongr
  · rw [show (n.log2 : Int) + e + 1 = n.log2 + 1 + e by ring, zpow_add₀ two_ne_zero]
    gcongr

end LeadingDigit

/-- A whole number is its own nearest one. -/
theorem roundEven_natCast (n : Nat) : roundEven (n : Rat) = n := by
  have hfloor : (n : Rat).floor = n := by
    rw [← Int.cast_natCast, Rat.floor_intCast]
  simp only [roundEven, hfloor, Int.toNat_natCast, sub_self]
  exact if_pos (by norm_num)

/-! ## Units -/

namespace Format

variable (f : Format)

theorem fractions_eq : f.fractions = 2 ^ f.fractionBits := Nat.one_shiftLeft _

/-- An exponent has at least one fraction. -/
theorem fractions_pos : 0 < f.fractions := by
  rw [fractions_eq]
  positivity

/-- A whole number of units as a number of the format has it: it fits the
fraction field with a leading digit, and has the leading digit unless the
unit is that of the subnormal numbers. -/
structure IsCanonical (n : Nat) (unit : Int) : Prop where
  minExponent_le : f.minExponent ≤ unit
  lt : n < 2 * f.fractions
  leading : unit = f.minExponent ∨ f.fractions ≤ n

variable {f} {n : Nat} {unit : Int}

/-- A canonical number of units has no more digits than the format keeps. -/
theorem IsCanonical.log2_le (h : f.IsCanonical n unit) (hn : n ≠ 0) :
    n.log2 ≤ f.fractionBits := by
  have hlt := h.lt
  rw [fractions_eq, ← Nat.pow_succ', ← Nat.log2_lt hn] at hlt
  omega

/-- A canonical number of units is rounded to its own unit. -/
theorem IsCanonical.unitExponent_eq (h : f.IsCanonical n unit) (hn : n ≠ 0) :
    f.unitExponent ((n : Rat) * 2 ^ unit) = unit := by
  have hle := h.log2_le hn
  have hmin := h.minExponent_le
  rw [unitExponent, binaryExponent_natCast_mul hn]
  obtain hsubnormal | hnormal := h.leading
  · omega
  · rw [fractions_eq, ← Nat.le_log2 hn] at hnormal
    omega

/-- The ordinal of a canonical number of units. -/
def ordinalOf (f : Format) (n : Nat) (unit : Int) : Nat :=
  (unit - f.minExponent).toNat * f.fractions + n

/-- A canonical number of units is rounded to its own ordinal. -/
theorem IsCanonical.nearest_eq (h : f.IsCanonical n unit) :
    f.nearest ((n : Rat) * 2 ^ unit) = f.ordinalOf n unit := by
  have hunit := two_zpow_pos unit
  obtain rfl | hn := Nat.eq_zero_or_pos n
  · obtain hsubnormal | hnormal := h.leading
    · rw [nearest, if_pos (by simp), ordinalOf, hsubnormal, Int.sub_self]
      simp
    · exact absurd hnormal (by have := f.fractions_pos; omega)
  · have hpos : 0 < (n : Rat) * 2 ^ unit := mul_pos (by exact_mod_cast hn) hunit
    have hquotient : (n : Rat) * 2 ^ unit / Rat.zpow 2 unit = n :=
      mul_div_cancel_right₀ _ hunit.ne'
    simp only [nearest, if_neg (not_le.mpr hpos), h.unitExponent_eq hn.ne', hquotient,
      roundEven_natCast, ordinalOf]

end Format

/-! ## Numbers of a format -/

namespace Binary

variable {f g : Format}

/-- The parts of a number are canonical. -/
theorem isCanonical_significand (x : Binary f) : f.IsCanonical x.significand x.exponent := by
  have hpos := f.fractions_pos
  have hmod : x.ordinal % f.fractions < f.fractions := Nat.mod_lt _ hpos
  by_cases hfield : x.exponentField = 0
  · refine ⟨?_, ?_, .inl ?_⟩
    · rw [exponent]; omega
    · rw [significand, hfield]; simp only [beq_self_eq_true, if_true]; omega
    · rw [exponent, hfield]; simp
  · have hsig : x.significand = f.fractions + x.ordinal % f.fractions := by
      rw [significand, if_neg (by simpa using hfield)]
    refine ⟨?_, ?_, .inr ?_⟩
    · rw [exponent]; omega
    · omega
    · omega

/-- The parts of a number are those of its ordinal. -/
theorem ordinalOf_significand (x : Binary f) :
    f.ordinalOf x.significand x.exponent = x.ordinal := by
  have hdiv : f.fractions * x.exponentField + x.ordinal % f.fractions = x.ordinal :=
    Nat.div_add_mod x.ordinal f.fractions
  have hunit : (x.exponent - f.minExponent).toNat = x.exponentField - 1 := by
    rw [exponent]; omega
  rw [Format.ordinalOf, hunit, significand]
  cases hfield : x.exponentField with
  | zero =>
    rw [hfield] at hdiv
    simpa using hdiv
  | succ field =>
    rw [hfield, Nat.mul_succ] at hdiv
    simp only [Nat.add_sub_cancel, Nat.mul_comm field, Nat.succ_ne_zero, beq_iff_eq, if_false]
    omega

/-- **A number of a format is rounded to itself.** -/
theorem nearest_magnitude (x : Binary f) : f.nearest x.magnitude = x.ordinal :=
  x.isCanonical_significand.nearest_eq.trans x.ordinalOf_significand

/-- The magnitude of an ordinal is that of its canonical parts. -/
theorem magnitude_of_ordinal_eq {n : Nat} {unit : Int} (h : f.IsCanonical n unit) {x : Binary f}
    (hx : x.ordinal = f.ordinalOf n unit) : x.magnitude = (n : Rat) * 2 ^ unit := by
  have hpos := f.fractions_pos
  have hmin := h.minExponent_le
  have hlt := h.lt
  rw [Format.ordinalOf] at hx
  -- a leading digit carries into the exponent field
  have hparts : x.significand = n ∧ x.exponent = unit := by
    by_cases hleading : f.fractions ≤ n
    · have hordinal : x.ordinal
          = f.fractions * ((unit - f.minExponent).toNat + 1) + (n - f.fractions) := by
        rw [hx, Nat.mul_succ, Nat.mul_comm]; omega
      have hfield : x.exponentField = (unit - f.minExponent).toNat + 1 := by
        rw [exponentField, hordinal, Nat.mul_add_div hpos,
          Nat.div_eq_of_lt (by omega : n - f.fractions < f.fractions), Nat.add_zero]
      have hrest : x.ordinal % f.fractions = n - f.fractions := by
        rw [hordinal, Nat.mul_add_mod, Nat.mod_eq_of_lt (by omega)]
      refine ⟨?_, ?_⟩
      · rw [significand, hfield, hrest]
        simp only [Nat.succ_ne_zero, beq_iff_eq, if_false]
        omega
      · rw [exponent, hfield]; omega
    · have hunit : unit = f.minExponent := h.leading.resolve_right hleading
      have hordinal : x.ordinal = n := by
        rw [hx, hunit]; simp
      have hfield : x.exponentField = 0 := by
        rw [exponentField, hordinal, Nat.div_eq_of_lt (by omega)]
      refine ⟨?_, ?_⟩
      · rw [significand, hfield, hordinal, Nat.mod_eq_of_lt (by omega)]
        simp
      · rw [exponent, hfield, hunit]; simp
  rw [magnitude, hparts.1, hparts.2]
  rfl

end Binary

/-! ## Wider formats -/

namespace Format

variable {f g : Format}

/-- The infinity comes after all exponents but the last, with all their
fractions. -/
theorem infinity_eq (f : Format) : f.infinity = (2 ^ f.exponentBits - 1) * f.fractions := by
  rw [infinity, ordinals, Nat.one_shiftLeft, Nat.pow_add, fractions_eq, Nat.sub_mul, Nat.one_mul]

/-- Every finite number of one format is a number of the other. -/
structure Widens (f g : Format) : Prop where
  two_le : 2 ≤ f.exponentBits
  exponentBits_le : f.exponentBits ≤ g.exponentBits
  fractionBits_le : f.fractionBits ≤ g.fractionBits
  minExponent_le : g.minExponent ≤ f.minExponent
  /-- The first digit of the largest numbers. -/
  maxExponent_le : f.minExponent + f.fractionBits + (2 ^ f.exponentBits : Nat)
    ≤ g.minExponent + g.fractionBits + (2 ^ g.exponentBits : Nat)

/-- Every finite single is a double. -/
theorem single_widens_double : single.Widens double := by
  constructor <;> decide

/-- Every finite half is a single. -/
theorem half_widens_single : half.Widens single := by
  constructor <;> decide

/-- Every finite brain float is a single: it has the same exponents and fewer
fractions. -/
theorem brain_widens_single : brain.Widens single := by
  constructor <;> decide

/-- A whole number of units that fits a format's fraction has canonical
parts: it is shifted to have the leading digit, or down to the subnormal
unit. -/
theorem exists_isCanonical {n : Nat} {unit : Int} (hlt : n < 2 * g.fractions)
    (hunit : g.minExponent ≤ unit) :
    ∃ m e, g.IsCanonical m e ∧ (m : Rat) * 2 ^ e = (n : Rat) * 2 ^ unit ∧
      e ≤ max g.minExponent (unit + n.log2 - g.fractionBits) := by
  rw [fractions_eq, ← Nat.pow_succ'] at hlt
  obtain rfl | hn := Nat.eq_zero_or_pos n
  · refine ⟨0, g.minExponent, ⟨le_rfl, ?_, .inl rfl⟩, by simp, by omega⟩
    have := g.fractions_pos
    omega
  · have hlog : n.log2 ≤ g.fractionBits := Nat.lt_succ_iff.mp ((Nat.log2_lt hn.ne').mpr hlt)
    obtain ⟨shift, hshift⟩ : ∃ shift : Nat,
        shift = min (g.fractionBits - n.log2) (unit - g.minExponent).toNat := ⟨_, rfl⟩
    have hlow : 2 ^ n.log2 ≤ n := Nat.log2_self_le hn.ne'
    have hhigh : n < 2 ^ (n.log2 + 1) := Nat.lt_log2_self
    refine ⟨n * 2 ^ shift, unit - shift, ⟨by omega, ?_, ?_⟩, ?_, by omega⟩
    · calc n * 2 ^ shift < 2 ^ (n.log2 + 1) * 2 ^ shift := by gcongr
        _ = 2 ^ (n.log2 + 1 + shift) := (Nat.pow_add ..).symm
        _ ≤ 2 ^ (g.fractionBits + 1) := Nat.pow_le_pow_right two_pos (by omega)
        _ = 2 * g.fractions := by rw [fractions_eq, Nat.pow_succ']
    · by_cases hsubnormal : shift = (unit - g.minExponent).toNat
      · exact .inl (by omega)
      · refine .inr ?_
        calc g.fractions = 2 ^ (n.log2 + shift) := by
              rw [fractions_eq]; congr 1; omega
          _ = 2 ^ n.log2 * 2 ^ shift := Nat.pow_add ..
          _ ≤ n * 2 ^ shift := by gcongr
    · rw [Nat.cast_mul, Nat.cast_pow, Nat.cast_ofNat, mul_assoc, ← zpow_natCast (2 : Rat) shift,
        ← zpow_add₀ two_ne_zero, add_sub_cancel]

/-- A canonical number of units whose unit leaves the last exponent free
stays below infinity. -/
theorem IsCanonical.ordinalOf_lt {n : Nat} {unit : Int} (h : g.IsCanonical n unit)
    (hunit : (unit - g.minExponent).toNat + 2 ≤ 2 ^ g.exponentBits - 1) :
    g.ordinalOf n unit < g.infinity := by
  have hn := h.lt
  rw [infinity_eq, ordinalOf]
  calc (unit - g.minExponent).toNat * g.fractions + n
      < ((unit - g.minExponent).toNat + 2) * g.fractions := by rw [Nat.add_mul]; omega
    _ ≤ (2 ^ g.exponentBits - 1) * g.fractions := Nat.mul_le_mul_right _ hunit

end Format

namespace Binary

variable {f g : Format}

/-- A finite number stays two exponents below the end of the range. -/
theorem exponent_lt (x : Binary f) (htwo : 2 ≤ f.exponentBits) (hx : x.isFinite = true) :
    x.exponent + 2 < f.minExponent + (2 ^ f.exponentBits : Nat) := by
  have hpow : 2 ^ 2 ≤ 2 ^ f.exponentBits := Nat.pow_le_pow_right two_pos htwo
  have hfield : x.exponentField < 2 ^ f.exponentBits - 1 := by
    rw [isFinite, decide_eq_true_eq, Format.infinity_eq] at hx
    exact Nat.div_lt_of_lt_mul (by rwa [Nat.mul_comm])
  rw [exponent]
  omega

/-- A finite number is none of the others. -/
theorem isNaN_and_isInfinite_of_isFinite {x : Binary f} (hx : x.isFinite = true) :
    x.isNaN = false ∧ x.isInfinite = false := by
  have hordinal : x.ordinal < f.infinity := of_decide_eq_true hx
  exact ⟨decide_eq_false hordinal.not_gt, beq_eq_false_iff_ne.mpr hordinal.ne⟩

/-- A finite number is converted by rounding its magnitude. -/
theorem convert_of_isFinite {x : Binary f} (hx : x.isFinite = true) :
    (x.convert : Binary g) = ofOrdinal x.negative (g.nearest x.magnitude) := by
  obtain ⟨hnan, hinfinite⟩ := isNaN_and_isInfinite_of_isFinite hx
  rw [convert, hnan, hinfinite]
  rfl

/-- A number is made with the sign and the ordinal given, below the infinity. -/
theorem ofOrdinal_of_lt {n : Nat} (h : n < f.infinity) (negative : Bool) :
    (ofOrdinal negative n : Binary f).negative = negative ∧
      (ofOrdinal negative n : Binary f).ordinal = n := by
  rw [ofOrdinal, dif_pos h]
  exact ⟨rfl, rfl⟩

/-- A canonical number of units below infinity is a number of the format. -/
theorem ofMagnitude_of_isCanonical {n : Nat} {unit : Int} (h : f.IsCanonical n unit)
    (hlt : f.ordinalOf n unit < f.infinity) (negative : Bool) {x : Rat}
    (hx : x = (n : Rat) * 2 ^ unit) :
    (ofMagnitude negative x : Binary f).isFinite = true ∧
      (ofMagnitude negative x : Binary f).negative = negative ∧
      (ofMagnitude negative x : Binary f).magnitude = x := by
  obtain ⟨hnegative, hordinal⟩ := ofOrdinal_of_lt hlt negative
  rw [ofMagnitude, hx, h.nearest_eq]
  refine ⟨?_, hnegative, magnitude_of_ordinal_eq h hordinal⟩
  rw [isFinite, hordinal]
  exact decide_eq_true hlt

/-- **Widening is exact.** A finite number keeps its sign and its magnitude
in a wider format. -/
theorem convert_of_widens (h : f.Widens g) {x : Binary f} (hx : x.isFinite = true) :
    (x.convert : Binary g).isFinite = true ∧ (x.convert : Binary g).negative = x.negative ∧
      (x.convert : Binary g).magnitude = x.magnitude := by
  have hcanonical := x.isCanonical_significand
  have hexponent := x.exponent_lt h.two_le hx
  have hexponents := Nat.pow_le_pow_right two_pos h.exponentBits_le
  have htwo : 2 ^ 2 ≤ 2 ^ f.exponentBits := Nat.pow_le_pow_right two_pos h.two_le
  have hmax := h.maxExponent_le
  have hlog : x.significand.log2 ≤ f.fractionBits := by
    obtain hzero | hpos := Nat.eq_zero_or_pos x.significand
    · rw [hzero]
      exact Nat.zero_le _
    · exact hcanonical.log2_le hpos.ne'
  have hfits : x.significand < 2 * g.fractions := by
    refine lt_of_lt_of_le hcanonical.lt ?_
    rw [Format.fractions_eq, Format.fractions_eq]
    exact Nat.mul_le_mul_left 2 (Nat.pow_le_pow_right two_pos h.fractionBits_le)
  obtain ⟨n, unit, hn, hvalue, hunit⟩ := Format.exists_isCanonical hfits
    (le_trans h.minExponent_le hcanonical.minExponent_le)
  have hmagnitude : x.magnitude = (n : Rat) * 2 ^ unit := hvalue.symm
  have hlt : g.ordinalOf n unit < g.infinity := by
    have hmin := hn.minExponent_le
    exact hn.ordinalOf_lt (by omega)
  rw [convert_of_isFinite hx]
  exact ofMagnitude_of_isCanonical hn hlt x.negative hmagnitude

/-- **Narrowing takes back what widening made.** -/
theorem convert_convert (h : f.Widens g) {x : Binary f} (hx : x.isFinite = true) :
    ((x.convert : Binary g).convert : Binary f) = x := by
  obtain ⟨hfinite, hnegative, hmagnitude⟩ := convert_of_widens h hx
  have hlt : x.ordinal < f.infinity := by
    rwa [isFinite, decide_eq_true_eq] at hx
  rw [convert_of_isFinite hfinite, hnegative, hmagnitude, nearest_magnitude]
  obtain ⟨hnegative', hordinal⟩ := ofOrdinal_of_lt hlt x.negative
  exact Binary.ext hnegative' hordinal

/-! ## Infinities -/

/-- What is a number is finite or infinite. -/
theorem isFinite_or_isInfinite {x : Binary f} (hx : x.isNaN = false) :
    x.isFinite = true ∨ x.isInfinite = true := by
  rw [isNaN, decide_eq_false_iff_not] at hx
  rw [isFinite, isInfinite, decide_eq_true_eq, beq_iff_eq]
  omega

/-- An infinity is made with the sign given. -/
theorem ofOrdinal_infinity (negative : Bool) :
    (infinity negative : Binary f).negative = negative ∧
      (infinity negative : Binary f).ordinal = f.infinity := by
  rw [infinity, ofOrdinal, dif_neg (lt_irrefl _)]
  exact ⟨rfl, rfl⟩

/-- An infinity is converted to that of its sign. -/
theorem convert_of_isInfinite {x : Binary f} (hx : x.isInfinite = true) :
    (x.convert : Binary g) = infinity x.negative := by
  have hnan : x.isNaN = false := by
    rw [isInfinite, beq_iff_eq] at hx
    rw [isNaN, hx, decide_eq_false_iff_not]
    exact lt_irrefl _
  rw [convert, hnan, hx]
  rfl

/-- An infinity is one in every format. -/
theorem convert_infinity (negative : Bool) :
    ((infinity negative : Binary f).convert : Binary g) = infinity negative := by
  obtain ⟨hnegative, hordinal⟩ := ofOrdinal_infinity (f := f) negative
  rw [convert_of_isInfinite (beq_iff_eq.mpr hordinal), hnegative]

/-- What is made from an ordinal is a number. -/
theorem isNaN_ofOrdinal (negative : Bool) (n : Nat) :
    (ofOrdinal negative n : Binary f).isNaN = false := by
  unfold ofOrdinal isNaN
  split
  · next hlt => exact decide_eq_false (Nat.lt_asymm hlt)
  · exact decide_eq_false (lt_irrefl _)

/-- What is a number is converted to a number. -/
theorem isNaN_convert {x : Binary f} (hx : x.isNaN = false) :
    (x.convert : Binary g).isNaN = false := by
  obtain hfinite | hinfinite := isFinite_or_isInfinite hx
  · rw [convert_of_isFinite hfinite]
    exact isNaN_ofOrdinal _ _
  · rw [convert_of_isInfinite hinfinite]
    exact isNaN_ofOrdinal _ _

/-- Narrowing takes back what widening made of any number. -/
theorem convert_convert_of_not_isNaN (h : f.Widens g) {x : Binary f} (hx : x.isNaN = false) :
    ((x.convert : Binary g).convert : Binary f) = x := by
  obtain hfinite | hinfinite := isFinite_or_isInfinite hx
  · exact convert_convert h hfinite
  · obtain ⟨hnegative, hordinal⟩ := ofOrdinal_infinity (f := f) x.negative
    rw [convert_of_isInfinite hinfinite, convert_infinity]
    exact Binary.ext hnegative (hordinal.trans (beq_iff_eq.mp hinfinite).symm)

end Binary

end SearchQuery
