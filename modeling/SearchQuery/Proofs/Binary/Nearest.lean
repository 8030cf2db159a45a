import SearchQuery.Proofs.Binary.Order
import SearchQuery.Proofs.Decimal.ReadBack

/-!
# Rounding is to the nearest

What a magnitude is rounded to is at least as near to it as any number of
the format, and where another is as near it is the even one
(`Binary.isNearest_of_ordinal_eq`). A finite number of which that holds is what
the magnitude is rounded to (`Binary.IsNearest.ordinal_eq`), and a greater
magnitude is not rounded to less (`Format.nearest_mono`).

In its own unit a magnitude is rounded to the nearest whole number. A number
of the format with that unit or a greater one is a whole number of units
too; one with a smaller unit lies below the least number that has the
leading digit, and the magnitude does not.
-/

namespace SearchQuery

/-! ## Whole numbers -/

/-- A rational is rounded by one half at most, and to an even number if by
one half. -/
theorem abs_roundEven_sub_le {q : Rat} (hq : 0 ≤ q) :
    |(roundEven q : Rat) - q| ≤ 1 / 2 ∧ (|(roundEven q : Rat) - q| = 1 / 2 → 2 ∣ roundEven q) := by
  obtain ⟨hle, hlt⟩ := floor_toNat_le_and_lt hq
  simp only [roundEven]
  generalize q.floor.toNat = low at hle hlt ⊢
  have hbelow : |(low : Rat) - q| = q - low := by
    rw [abs_sub_comm]
    exact abs_of_nonneg (by linarith)
  have habove : |((low + 1 : Nat) : Rat) - q| = low + 1 - q := by
    push_cast
    exact abs_of_nonneg (by linarith)
  split
  · rw [hbelow]
    exact ⟨by linarith, fun h => by linarith⟩
  · split
    · rw [habove]
      exact ⟨by linarith, fun h => by linarith⟩
    · have htie : q - low = 1 / 2 := by linarith
      split
      · next heven =>
        rw [hbelow]
        exact ⟨htie.le, fun _ => Nat.dvd_of_mod_eq_zero (beq_iff_eq.mp heven)⟩
      · next hodd =>
        rw [habove]
        refine ⟨by linarith, fun _ => ?_⟩
        rw [beq_iff_eq] at hodd
        omega

/-- No other integer is nearer, and if one is as near the nearest is even. -/
theorem roundEven_nearest_int {q : Rat} (hq : 0 ≤ q) {n : Int} (hn : n ≠ roundEven q) :
    |(roundEven q : Rat) - q| < |(n : Rat) - q| ∨
      (|(roundEven q : Rat) - q| = |(n : Rat) - q| ∧ 2 ∣ roundEven q) := by
  obtain ⟨hhalf, heven⟩ := abs_roundEven_sub_le hq
  have hapart : (1 : Rat) ≤ |(n : Rat) - roundEven q| := by
    have hint : (1 : Int) ≤ |n - roundEven q| := Int.one_le_abs (by omega)
    exact_mod_cast hint
  have htriangle : |(n : Rat) - roundEven q| ≤ |(n : Rat) - q| + |(roundEven q : Rat) - q| := by
    rw [abs_sub_comm (roundEven q : Rat) q]
    exact abs_sub_le _ _ _
  obtain hless | hsame := lt_or_eq_of_le (show |(roundEven q : Rat) - q| ≤ |(n : Rat) - q| by linarith)
  · exact .inl hless
  · exact .inr ⟨hsame, heven (by linarith)⟩

theorem roundEven_nearest {q : Rat} (hq : 0 ≤ q) {n : Nat} (hn : n ≠ roundEven q) :
    |(roundEven q : Rat) - q| < |(n : Rat) - q| ∨
      (|(roundEven q : Rat) - q| = |(n : Rat) - q| ∧ 2 ∣ roundEven q) := by
  have hint : (n : Int) ≠ roundEven q := by exact_mod_cast hn
  exact_mod_cast roundEven_nearest_int hq hint

/-- Rounding does not pass a whole number. -/
theorem le_roundEven {q : Rat} {n : Nat} (hn : (n : Rat) ≤ q) : n ≤ roundEven q := by
  have hhalf := (abs_roundEven_sub_le ((Nat.cast_nonneg n).trans hn)).1
  have hlt : (n : Rat) < roundEven q + 1 := by linarith [(abs_le.mp hhalf).1]
  exact Nat.lt_succ_iff.mp (by exact_mod_cast hlt)

theorem roundEven_le {q : Rat} (hq : 0 ≤ q) {n : Nat} (hn : q ≤ n) : roundEven q ≤ n := by
  have hhalf := (abs_roundEven_sub_le hq).1
  have hlt : (roundEven q : Rat) < n + 1 := by linarith [(abs_le.mp hhalf).2]
  exact Nat.lt_succ_iff.mp (by exact_mod_cast hlt)

/-- Rounding keeps the order. Between one whole number and the next it goes by
what is left, and no rounding passes a whole number. -/
theorem roundEven_mono {q r : Rat} (hq : 0 ≤ q) (h : q ≤ r) : roundEven q ≤ roundEven r := by
  obtain ⟨-, hqlt⟩ := floor_toNat_le_and_lt hq
  obtain ⟨hrle, -⟩ := floor_toNat_le_and_lt (hq.trans h)
  have hfloor : q.floor.toNat ≤ r.floor.toNat := Int.toNat_le_toNat (Rat.floor_monotone h)
  obtain hless | hsame := Nat.lt_or_eq_of_le hfloor
  · calc roundEven q ≤ q.floor.toNat + 1 := roundEven_le hq (by exact_mod_cast hqlt.le)
      _ ≤ r.floor.toNat := hless
      _ ≤ roundEven r := le_roundEven hrle
  · simp only [roundEven, ← hsame]
    split_ifs <;> first | omega | linarith

/-! ## Units -/

namespace Format

variable {f : Format} {q : Rat}

/-- The unit of a magnitude leaves it with a leading digit, or is the
smallest. -/
theorem le_and_lt_of_unitExponent (hq : 0 < q) :
    q / 2 ^ f.unitExponent q < (2 * f.fractions : Nat) ∧
      (f.unitExponent q = f.minExponent ∨ (f.fractions : Rat) ≤ q / 2 ^ f.unitExponent q) := by
  obtain ⟨hlow, hhigh⟩ := zpow_binaryExponent_le_and_lt hq
  have hunit := two_zpow_pos (f.unitExponent q)
  rw [div_lt_iff₀ hunit, le_div_iff₀ hunit, fractions_eq]
  push_cast
  constructor
  · calc q < 2 ^ (binaryExponent q + 1) := hhigh
      _ ≤ 2 ^ (((f.fractionBits : Int) + 1) + f.unitExponent q) := by
        apply zpow_le_zpow_right₀ one_le_two
        rw [unitExponent]
        omega
      _ = 2 * 2 ^ f.fractionBits * 2 ^ f.unitExponent q := by
        rw [zpow_add₀ two_ne_zero, zpow_add_one₀ two_ne_zero, zpow_natCast]
        ring
  · by_cases hmin : f.unitExponent q = f.minExponent
    · exact .inl hmin
    · refine .inr ?_
      have hexponent : f.unitExponent q = binaryExponent q - f.fractionBits := by
        rw [unitExponent] at hmin ⊢
        omega
      calc (2 : Rat) ^ f.fractionBits * 2 ^ f.unitExponent q
          = 2 ^ ((f.fractionBits : Int) + f.unitExponent q) := by
            rw [zpow_add₀ two_ne_zero, zpow_natCast]
        _ = 2 ^ binaryExponent q := by
          congr 1
          omega
        _ ≤ q := hlow

/-- What a magnitude is rounded to, as a whole number of its unit. A carry
makes one of the next unit. -/
theorem magnitude_of_nearest (hq : 0 < q) {x : Binary f} (hx : x.ordinal = f.nearest q) :
    x.magnitude = roundEven (q / 2 ^ f.unitExponent q) * 2 ^ f.unitExponent q ∧
      x.ordinal = f.ordinalOf (roundEven (q / 2 ^ f.unitExponent q)) (f.unitExponent q) := by
  obtain ⟨hhigh, hleading⟩ := le_and_lt_of_unitExponent (f := f) hq
  have hmin : f.minExponent ≤ f.unitExponent q := le_max_right _ _
  have hquotient : 0 < q / 2 ^ f.unitExponent q := div_pos hq (two_zpow_pos _)
  have hordinal : x.ordinal
      = f.ordinalOf (roundEven (q / 2 ^ f.unitExponent q)) (f.unitExponent q) := by
    rw [hx, nearest, if_neg (not_le.mpr hq)]
    rfl
  refine ⟨?_, hordinal⟩
  have hle := roundEven_le hquotient.le hhigh.le
  have hpos := f.fractions_pos
  have hleading' : f.unitExponent q = f.minExponent ∨
      f.fractions ≤ roundEven (q / 2 ^ f.unitExponent q) := hleading.imp_right le_roundEven
  generalize f.unitExponent q = unit at *
  generalize roundEven (q / 2 ^ unit) = n at *
  obtain hless | rfl := Nat.lt_or_eq_of_le hle
  · exact Binary.magnitude_of_ordinal_eq ⟨hmin, hless, hleading'⟩ hordinal
  · have hcarry : f.IsCanonical f.fractions (unit + 1) := ⟨by omega, by omega, .inr le_rfl⟩
    have hnext : x.ordinal = f.ordinalOf f.fractions (unit + 1) := by
      rw [hordinal, ordinalOf, ordinalOf,
        show (unit + 1 - f.minExponent).toNat = (unit - f.minExponent).toNat + 1 by omega,
        Nat.add_mul]
      omega
    rw [Binary.magnitude_of_ordinal_eq hcarry hnext, zpow_add_one₀ two_ne_zero]
    push_cast
    ring

/-- A greater magnitude has no smaller unit. -/
theorem unitExponent_mono {r : Rat} (hq : 0 < q) (h : q ≤ r) :
    f.unitExponent q ≤ f.unitExponent r := by
  have hlow := (zpow_binaryExponent_le_and_lt hq).1
  have hhigh := (zpow_binaryExponent_le_and_lt (hq.trans_le h)).2
  have hlt : binaryExponent q < binaryExponent r + 1 :=
    (zpow_lt_zpow_iff_right₀ one_lt_two).mp ((hlow.trans h).trans_lt hhigh)
  rw [unitExponent, unitExponent]
  omega

/-- **Rounding to a format keeps the order.** In one unit the quotients are
rounded in order. A magnitude of a greater unit has a leading digit, and one
of a smaller unit is rounded to the first such number at most. -/
theorem nearest_mono {r : Rat} (h : q ≤ r) : f.nearest q ≤ f.nearest r := by
  obtain hq | hq := le_or_gt q 0
  · rw [nearest, if_pos hq]
    exact Nat.zero_le _
  have hr : 0 < r := hq.trans_le h
  rw [nearest, nearest, if_neg (not_le.mpr hq), if_neg (not_le.mpr hr)]
  have hqmin : f.minExponent ≤ f.unitExponent q := le_max_right _ _
  have hqunit := two_zpow_pos (f.unitExponent q)
  obtain hsame | hless := (unitExponent_mono (f := f) hq h).eq_or_lt
  · rw [← hsame]
    exact Nat.add_le_add_left
      (roundEven_mono (div_nonneg hq.le hqunit.le) (div_le_div_of_nonneg_right h hqunit.le)) _
  · have hqhigh : roundEven (q / 2 ^ f.unitExponent q) ≤ 2 * f.fractions :=
      roundEven_le (div_nonneg hq.le hqunit.le) (le_and_lt_of_unitExponent hq).1.le
    have hrlow : f.fractions ≤ roundEven (r / 2 ^ f.unitExponent r) :=
      le_roundEven ((le_and_lt_of_unitExponent hr).2.resolve_left (by omega))
    have hsteps : (f.unitExponent q - f.minExponent).toNat + 1
        ≤ (f.unitExponent r - f.minExponent).toNat := by omega
    calc (f.unitExponent q - f.minExponent).toNat * f.fractions
          + roundEven (q / 2 ^ f.unitExponent q)
        ≤ ((f.unitExponent q - f.minExponent).toNat + 1) * f.fractions + f.fractions := by
          rw [Nat.succ_mul]
          omega
      _ ≤ (f.unitExponent r - f.minExponent).toNat * f.fractions
          + roundEven (r / 2 ^ f.unitExponent r) :=
        Nat.add_le_add (Nat.mul_le_mul_right _ hsteps) hrlow

end Format

/-! ## Numbers -/

namespace Binary

variable {f : Format}

/-- No number of the format is nearer to a magnitude than this one, and if
another is as near this one is even. -/
def IsNearest (x : Binary f) (q : Rat) : Prop :=
  ∀ y : Binary f, y.ordinal ≠ x.ordinal →
    |x.magnitude - q| < |y.magnitude - q| ∨
      (|x.magnitude - q| = |y.magnitude - q| ∧ 2 ∣ x.ordinal)

/-- **Rounding is to the nearest**, a tie going to the even number. -/
theorem isNearest_of_ordinal_eq (hf : 1 ≤ f.fractionBits) {q : Rat} (hq : 0 ≤ q) {x : Binary f}
    (hx : x.ordinal = f.nearest q) : x.IsNearest q := by
  intro y hy
  obtain rfl | hpos := hq.eq_or_lt
  · have hzero : x.ordinal = 0 := hx.trans (if_pos le_rfl)
    have hxmag : x.magnitude = 0 := by
      rw [← magnitude_signedZero (f := f) false]
      exact magnitude_eq_magnitude.mpr hzero
    have hymag : 0 < y.magnitude := magnitude_pos_iff.mpr (by omega)
    left
    rw [hxmag, sub_zero, sub_zero, abs_zero]
    exact abs_pos.mpr hymag.ne'
  obtain ⟨hmagnitude, hordinal⟩ := Format.magnitude_of_nearest hpos hx
  have hleading := (Format.le_and_lt_of_unitExponent (f := f) hpos).2
  have hcanonical := y.isCanonical_significand
  have hunit := two_zpow_pos (f.unitExponent q)
  generalize f.unitExponent q = unit at *
  have hquotient : 0 ≤ q / 2 ^ unit := div_nonneg hq hunit.le
  have hscale : ∀ r : Rat, |r * 2 ^ unit - q| = |r - q / 2 ^ unit| * 2 ^ unit := by
    intro r
    rw [← abs_of_pos hunit, ← abs_mul, abs_of_pos hunit, sub_mul, div_mul_cancel₀ _ hunit.ne']
  have hfraction : |(roundEven (q / 2 ^ unit) : Rat) - q / 2 ^ unit|
      ≤ |(f.fractions : Rat) - q / 2 ^ unit| := by
    by_cases hsame : f.fractions = roundEven (q / 2 ^ unit)
    · rw [← hsame]
    · obtain hless | ⟨heq, -⟩ := roundEven_nearest hquotient hsame
      · exact hless.le
      · exact heq.le
  obtain hfine | hcoarse := lt_or_ge y.exponent unit
  · -- the number has a smaller unit, so it is below all that have this one
    left
    have hle : (f.fractions : Rat) ≤ q / 2 ^ unit :=
      hleading.resolve_left (by have := hcanonical.minExponent_le; omega)
    have hbelow : y.magnitude < f.fractions * 2 ^ unit := hcanonical.lt_fractions_mul hfine
    have hq' : f.fractions * 2 ^ unit ≤ q := (le_div_iff₀ hunit).mp hle
    calc |x.magnitude - q| ≤ |(f.fractions : Rat) * 2 ^ unit - q| := by
          rw [hmagnitude, hscale, hscale]
          gcongr
      _ = q - f.fractions * 2 ^ unit := by
        rw [abs_sub_comm]
        exact abs_of_nonneg (by linarith)
      _ < q - y.magnitude := by linarith
      _ ≤ |y.magnitude - q| := by
        rw [abs_sub_comm]
        exact le_abs_self _
  · obtain ⟨n, hn⟩ : ∃ n : Nat, y.magnitude = n * 2 ^ unit := by
      refine ⟨y.significand * 2 ^ (y.exponent - unit).toNat, ?_⟩
      have hshift : (2 : Rat) ^ y.exponent = 2 ^ (y.exponent - unit).toNat * 2 ^ unit := by
        rw [← zpow_natCast, ← zpow_add₀ two_ne_zero, Int.toNat_of_nonneg (by omega)]
        congr 1
        omega
      calc y.magnitude = y.significand * 2 ^ y.exponent := rfl
        _ = (y.significand * 2 ^ (y.exponent - unit).toNat : Nat) * 2 ^ unit := by
          rw [hshift]
          push_cast
          ring
    have hother : n ≠ roundEven (q / 2 ^ unit) := by
      rintro rfl
      exact hy (magnitude_eq_magnitude.mp (hn.trans hmagnitude.symm))
    rw [hmagnitude, hn, hscale, hscale]
    obtain hless | ⟨hsame, heven⟩ := roundEven_nearest hquotient hother
    · left
      gcongr
    · right
      refine ⟨by rw [hsame], ?_⟩
      rw [hordinal, Format.ordinalOf, f.fractions_eq]
      exact Nat.dvd_add (Dvd.dvd.mul_left (dvd_pow_self 2 (by omega)) _) heven

/-- Between two even numbers that are as near as each other lies a nearer one. -/
theorem exists_nearer_of_even {x y : Binary f} {q : Rat} (hlt : x.ordinal < y.ordinal)
    (hsame : |x.magnitude - q| = |y.magnitude - q|) (hx : 2 ∣ x.ordinal) (hy : 2 ∣ y.ordinal) :
    ∃ z : Binary f, |z.magnitude - q| < |x.magnitude - q| := by
  obtain ⟨z, hz⟩ : ∃ z : Binary f, z.ordinal = x.ordinal + 1 :=
    ⟨⟨false, x.ordinal + 1, by have := y.ordinal_lt; omega⟩, rfl⟩
  have hxz : x.ordinal < z.ordinal := by omega
  have hzy : z.ordinal < y.ordinal := by omega
  refine ⟨z, ?_⟩
  rw [← magnitude_lt_magnitude] at hxz hzy
  obtain hdiff | hmiddle := abs_eq_abs.mp hsame
  · linarith
  · rw [abs_of_neg (show x.magnitude - q < 0 by linarith)]
    exact abs_lt.mpr ⟨by linarith, by linarith⟩

/-- No number is nearer than the nearest. -/
theorem IsNearest.le {x : Binary f} {q : Rat} (hx : x.IsNearest q) (y : Binary f) :
    |x.magnitude - q| ≤ |y.magnitude - q| := by
  by_cases hsame : y.ordinal = x.ordinal
  · rw [magnitude_eq_magnitude.mpr hsame]
  · obtain hless | ⟨heq, -⟩ := hx y hsame
    · exact hless.le
    · exact heq.le

/-- A magnitude that has a finite number nearest is not rounded past the last
pattern: that would lie between the two. -/
theorem IsNearest.nearest_lt {q : Rat} {x : Binary f} (hfinite : x.isFinite = true)
    (hx : x.IsNearest q) : f.nearest q < f.ordinals := by
  rw [isFinite, decide_eq_true_eq, Format.infinity] at hfinite
  by_contra hpast
  have hpos := f.fractions_pos
  obtain ⟨y, hy⟩ : ∃ y : Binary f, y.ordinal = f.ordinals - 1 :=
    ⟨⟨false, f.ordinals - 1, by omega⟩, rfl⟩
  have hxy : x.magnitude < y.magnitude := magnitude_lt_magnitude.mpr (by omega)
  have hyq : y.magnitude < q := by
    by_contra hle
    have hmono := f.nearest_mono (not_lt.mp hle)
    rw [nearest_magnitude] at hmono
    omega
  have hle := hx.le y
  rw [abs_of_neg (by linarith), abs_of_neg (by linarith)] at hle
  linarith

/-- **The nearest is what a magnitude is rounded to**: one finite number at
most is nearest. -/
theorem IsNearest.ordinal_eq (hf : 1 ≤ f.fractionBits) {q : Rat} (hq : 0 ≤ q) {x : Binary f}
    (hfinite : x.isFinite = true) (hx : x.IsNearest q) : x.ordinal = f.nearest q := by
  obtain ⟨y, hy⟩ : ∃ y : Binary f, y.ordinal = f.nearest q :=
    ⟨⟨false, _, hx.nearest_lt hfinite⟩, rfl⟩
  have hy' := isNearest_of_ordinal_eq hf hq hy
  rw [← hy]
  by_contra hother
  have hsame := le_antisymm (hx.le y) (hy'.le x)
  have hxeven := ((hx y (Ne.symm hother)).resolve_left (hy'.le x).not_gt).2
  have hyeven := ((hy' x hother).resolve_left (hx.le y).not_gt).2
  obtain hless | hgreater := lt_or_gt_of_ne hother
  · obtain ⟨z, hnearer⟩ := exists_nearer_of_even hless hsame hxeven hyeven
    exact hnearer.not_ge (hx.le z)
  · obtain ⟨z, hnearer⟩ := exists_nearer_of_even hgreater hsame.symm hyeven hxeven
    exact hnearer.not_ge (hy'.le z)

end Binary

end SearchQuery
