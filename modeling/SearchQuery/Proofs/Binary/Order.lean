import Mathlib.Order.WithBot
import SearchQuery.Proofs.Binary.Widening

/-!
# The order of binary numbers

Numbers of a format compare by their signed ordinals, and that is the order
of their exact values (`Binary.toRat_lt_toRat`): a greater unit outweighs
any number of smaller ones that the format has, since what has it has the
leading digit.

With the infinities at the ends, every number has a place on one line
(`Binary.value`), and the comparisons of a format are those of the line
(`Binary.lt_iff_value_lt`, `Binary.le_iff_value_le`).
-/

namespace SearchQuery

/-! ## Magnitudes -/

/-- However many units, they are less than the least number that has the
leading digit in a greater unit. -/
theorem Format.IsCanonical.lt_fractions_mul {f : Format} {n : Nat} {d e : Int}
    (h : f.IsCanonical n d) (hless : d < e) : (n : Rat) * 2 ^ d < f.fractions * 2 ^ e := by
  have hlt : (n : Rat) < (2 * f.fractions : Nat) := by exact_mod_cast h.lt
  calc (n : Rat) * 2 ^ d < (2 * f.fractions : Nat) * 2 ^ d := by gcongr
    _ = f.fractions * 2 ^ (d + 1) := by
      rw [zpow_add_one₀ two_ne_zero]
      push_cast
      ring
    _ ≤ f.fractions * 2 ^ e := by
      gcongr
      · exact one_le_two
      · omega

/-- A canonical number of units of a greater ordinal is greater. -/
theorem Format.IsCanonical.lt_of_ordinalOf_lt {f : Format} {m n : Nat} {d e : Int}
    (hm : f.IsCanonical m d) (hn : f.IsCanonical n e) (h : f.ordinalOf m d < f.ordinalOf n e) :
    (m : Rat) * 2 ^ d < n * 2 ^ e := by
  have hmin := hm.minExponent_le
  have hmin' := hn.minExponent_le
  have hlt := hm.lt
  have hlt' := hn.lt
  rw [ordinalOf, ordinalOf] at h
  obtain hless | rfl | hgreater := lt_trichotomy d e
  · have hleading : f.fractions ≤ n := hn.leading.resolve_left (by omega)
    calc (m : Rat) * 2 ^ d < f.fractions * 2 ^ e := hm.lt_fractions_mul hless
      _ ≤ n * 2 ^ e := by gcongr
  · have hunits : m < n := by omega
    gcongr
  · have hleading : f.fractions ≤ m := hm.leading.resolve_left (by omega)
    have hproduct : ((e - f.minExponent).toNat + 1) * f.fractions
        ≤ (d - f.minExponent).toNat * f.fractions := Nat.mul_le_mul_right _ (by omega)
    rw [Nat.add_mul] at hproduct
    omega

namespace Binary

variable {f : Format} {x y : Binary f}

/-- Magnitudes are those of the ordinals. -/
theorem magnitude_eq_of_ordinal_eq (h : x.ordinal = y.ordinal) : x.magnitude = y.magnitude :=
  magnitude_of_ordinal_eq y.isCanonical_significand (h.trans y.ordinalOf_significand.symm)

/-- A greater ordinal is that of a greater magnitude. -/
theorem magnitude_lt_of_ordinal_lt (h : x.ordinal < y.ordinal) : x.magnitude < y.magnitude := by
  rw [← x.ordinalOf_significand, ← y.ordinalOf_significand] at h
  exact x.isCanonical_significand.lt_of_ordinalOf_lt y.isCanonical_significand h

/-- Magnitudes are ordered as the ordinals. -/
theorem magnitude_lt_magnitude : x.magnitude < y.magnitude ↔ x.ordinal < y.ordinal := by
  refine ⟨fun h => ?_, magnitude_lt_of_ordinal_lt⟩
  by_contra hnot
  obtain hless | hsame := Nat.lt_or_eq_of_le (Nat.le_of_not_lt hnot)
  · exact lt_asymm h (magnitude_lt_of_ordinal_lt hless)
  · exact h.ne' (magnitude_eq_of_ordinal_eq hsame)

/-- Numbers of one magnitude have one ordinal. -/
theorem magnitude_eq_magnitude : x.magnitude = y.magnitude ↔ x.ordinal = y.ordinal := by
  refine ⟨fun h => ?_, magnitude_eq_of_ordinal_eq⟩
  have hless := magnitude_lt_magnitude.not.mp h.not_lt
  have hgreater := magnitude_lt_magnitude.not.mp h.not_gt
  omega

theorem magnitude_signedZero (negative : Bool) :
    (signedZero negative : Binary f).magnitude = 0 := by
  have hpos := f.fractions_pos
  have hcanonical : f.IsCanonical 0 f.minExponent := ⟨le_rfl, by omega, .inl rfl⟩
  rw [magnitude_of_ordinal_eq hcanonical (by simp [signedZero, Format.ordinalOf])]
  simp

theorem magnitude_nonneg (x : Binary f) : 0 ≤ x.magnitude :=
  mul_nonneg (Nat.cast_nonneg _) (two_zpow_pos _).le

/-- Only the ordinal of the zeros is that of nothing. -/
theorem magnitude_pos_iff : 0 < x.magnitude ↔ 0 < x.ordinal := by
  rw [← magnitude_signedZero (f := f) false, magnitude_lt_magnitude]
  rfl

/-! ## Values -/

/-- A sign is all that the exact value has besides the magnitude. -/
theorem abs_toRat (x : Binary f) : |x.toRat| = x.magnitude := by
  have hnonneg := x.magnitude_nonneg
  rw [toRat]
  split
  · rw [abs_neg, abs_of_nonneg hnonneg]
  · exact abs_of_nonneg hnonneg

/-- A number with the other sign has the opposite value. -/
theorem toRat_neg (x : Binary f) : x.neg.toRat = -x.toRat := by
  rw [toRat, toRat]
  cases hsign : x.negative with
  | true =>
    rw [neg, hsign, if_pos rfl, neg_neg]
    rfl
  | false =>
    rw [neg, hsign, if_neg Bool.false_ne_true]
    rfl

/-- Exact values are ordered as the signed ordinals. -/
theorem toRat_lt_toRat : x.toRat < y.toRat ↔ x.rank < y.rank := by
  have hx := x.magnitude_nonneg
  have hy := y.magnitude_nonneg
  rw [toRat, toRat, rank, rank]
  cases x.negative <;> cases y.negative
  case false.false => simpa using magnitude_lt_magnitude
  case true.true => simpa using magnitude_lt_magnitude
  case false.true =>
    simp only [Bool.false_eq_true, if_false, if_true]
    constructor
    · intro h
      linarith
    · intro h
      omega
  case true.false =>
    -- zeros of either sign are one value, and anything else has a sign
    simp only [Bool.false_eq_true, if_false, if_true]
    constructor
    · intro h
      have hpos : 0 < x.magnitude ∨ 0 < y.magnitude := by
        by_contra hnot
        rw [not_or, not_lt, not_lt] at hnot
        linarith
      rw [magnitude_pos_iff, magnitude_pos_iff] at hpos
      omega
    · intro h
      have hpos : 0 < x.ordinal ∨ 0 < y.ordinal := by omega
      rw [← magnitude_pos_iff, ← magnitude_pos_iff] at hpos
      obtain hpos | hpos := hpos <;> linarith

/-- The place of a number among all: its exact value, or an end. -/
def value (x : Binary f) : WithBot (WithTop Rat) :=
  if x.isInfinite then (if x.negative then ⊥ else ⊤) else ((x.toRat : WithTop Rat) : WithBot _)

/-- A finite number stands at its exact value. -/
theorem value_of_isFinite (hx : x.isFinite = true) :
    x.value = ((x.toRat : WithTop Rat) : WithBot _) := by
  rw [value, (isNaN_and_isInfinite_of_isFinite hx).2, if_neg Bool.false_ne_true]

/-- The signed ordinal of a finite number lies between those of the
infinities. -/
theorem abs_rank_lt_of_isFinite (hx : x.isFinite = true) : |x.rank| < f.infinity := by
  rw [isFinite, decide_eq_true_eq] at hx
  rw [rank]
  split
  · rw [abs_neg, Nat.abs_cast]
    exact_mod_cast hx
  · rw [Nat.abs_cast]
    exact_mod_cast hx

theorem bot_lt_value_of_isFinite (hx : x.isFinite = true) : ⊥ < x.value := by
  rw [value_of_isFinite hx]
  exact WithBot.bot_lt_coe _

theorem value_lt_top_of_isFinite (hx : x.isFinite = true) : x.value < ⊤ := by
  rw [value_of_isFinite hx]
  exact WithBot.coe_lt_coe.mpr (WithTop.coe_lt_top _)

/-- An infinity stands at the end that its sign says. -/
theorem value_of_isInfinite (hx : x.isInfinite = true) :
    x.value = if x.negative then ⊥ else ⊤ := by
  rw [value, hx, if_pos rfl]

theorem value_infinity (negative : Bool) :
    (infinity negative : Binary f).value = if negative then ⊥ else ⊤ := by
  obtain ⟨hnegative, hordinal⟩ := ofOrdinal_infinity (f := f) negative
  rw [value_of_isInfinite (beq_iff_eq.mpr hordinal), hnegative]

/-- An infinity stands at one of the ends. -/
theorem eq_end_of_isInfinite (hx : x.isInfinite = true) :
    (x.value = ⊥ ∧ x.rank = -(f.infinity : Int)) ∨ (x.value = ⊤ ∧ x.rank = f.infinity) := by
  rw [value_of_isInfinite hx, rank, beq_iff_eq.mp hx]
  cases x.negative
  · exact .inr ⟨rfl, rfl⟩
  · exact .inl ⟨rfl, rfl⟩

/-- No finite number is an infinity. -/
theorem value_ne_value_of_isInfinite (hx : x.isInfinite = true) (hy : y.isFinite = true) :
    x.value ≠ y.value := by
  obtain ⟨hend, -⟩ | ⟨hend, -⟩ := eq_end_of_isInfinite hx
  · rw [hend]
    exact (bot_lt_value_of_isFinite hy).ne
  · rw [hend]
    exact (value_lt_top_of_isFinite hy).ne'

/-- Places are ordered as the signed ordinals. -/
theorem value_lt_value (hf : 0 < f.infinity) (hx : x.isNaN = false) (hy : y.isNaN = false) :
    x.value < y.value ↔ x.rank < y.rank := by
  obtain hxfinite | hxinfinite := isFinite_or_isInfinite hx
  · have hrank := abs_lt.mp (abs_rank_lt_of_isFinite hxfinite)
    obtain hyfinite | hyinfinite := isFinite_or_isInfinite hy
    · rw [value_of_isFinite hxfinite, value_of_isFinite hyfinite, WithBot.coe_lt_coe,
        WithTop.coe_lt_coe, toRat_lt_toRat]
    · obtain ⟨hend, hyrank⟩ | ⟨hend, hyrank⟩ := eq_end_of_isInfinite hyinfinite
      · rw [hend, hyrank]
        exact iff_of_false not_lt_bot (by omega)
      · rw [hend, hyrank]
        exact iff_of_true (value_lt_top_of_isFinite hxfinite) hrank.2
  · obtain ⟨hend, hxrank⟩ | ⟨hend, hxrank⟩ := eq_end_of_isInfinite hxinfinite
    · rw [hend, hxrank]
      obtain hyfinite | hyinfinite := isFinite_or_isInfinite hy
      · have hrank := abs_lt.mp (abs_rank_lt_of_isFinite hyfinite)
        exact iff_of_true (bot_lt_value_of_isFinite hyfinite) hrank.1
      · obtain ⟨hend', hyrank⟩ | ⟨hend', hyrank⟩ := eq_end_of_isInfinite hyinfinite
        · rw [hend', hyrank, lt_self_iff_false, lt_self_iff_false]
        · rw [hend', hyrank]
          exact iff_of_true bot_lt_top (by omega)
    · rw [hend, hxrank]
      obtain hyfinite | hyinfinite := isFinite_or_isInfinite hy
      · have hrank := abs_lt.mp (abs_rank_lt_of_isFinite hyfinite)
        exact iff_of_false not_top_lt (by omega)
      · obtain ⟨-, hyrank⟩ | ⟨-, hyrank⟩ := eq_end_of_isInfinite hyinfinite
        · exact iff_of_false not_top_lt (by omega)
        · exact iff_of_false not_top_lt (by omega)

/-! ## Comparisons -/

/-- A number is less than another when it stands before it. -/
theorem lt_iff_value_lt (hf : 0 < f.infinity) (hx : x.isNaN = false) (hy : y.isNaN = false) :
    x.lt y = true ↔ x.value < y.value := by
  rw [value_lt_value hf hx hy, lt, hx, hy]
  simp

/-- A number is at most another when it does not stand behind it. -/
theorem le_iff_value_le (hf : 0 < f.infinity) (hx : x.isNaN = false) (hy : y.isNaN = false) :
    x.le y = true ↔ x.value ≤ y.value := by
  rw [← not_lt, value_lt_value hf hy hx, not_lt, le, hx, hy]
  simp

/-- Numbers of one rank stand at one place. -/
theorem value_eq_value (hf : 0 < f.infinity) (hx : x.isNaN = false) (hy : y.isNaN = false) :
    x.value = y.value ↔ x.rank = y.rank := by
  have hless := value_lt_value hf hx hy
  have hgreater := value_lt_value hf hy hx
  rw [eq_iff_le_not_lt, ← not_lt, hless, hgreater, eq_iff_le_not_lt, not_lt, not_lt]

/-- Numbers are equal when they stand at one place, so the zeros are. -/
theorem eq_iff_value_eq (hf : 0 < f.infinity) (hx : x.isNaN = false) (hy : y.isNaN = false) :
    x.eq y = true ↔ x.value = y.value := by
  rw [value_eq_value hf hx hy, eq, hx, hy]
  simp

/-- What ranks above zero has no sign. -/
theorem negative_eq_false_of_rank_pos (h : 0 < x.rank) : x.negative = false := by
  by_contra hnegative
  rw [rank, if_pos (Bool.eq_true_of_not_eq_false hnegative)] at h
  omega

/-- What equals a number greater than zero is that number. -/
theorem eq_of_eq_of_isPositive (h : x.eq y = true) (hy : y.isPositive = true) : x = y := by
  have hrank : x.rank = y.rank := beq_iff_eq.mp (Bool.and_eq_true_iff.mp h).2
  have hpos : 0 < y.rank := of_decide_eq_true (Bool.and_eq_true_iff.mp hy).2
  have hysign := negative_eq_false_of_rank_pos hpos
  have hxsign := negative_eq_false_of_rank_pos (hrank ▸ hpos)
  rw [rank, rank, hxsign, hysign] at hrank
  exact Binary.ext (hxsign.trans hysign.symm) (Int.ofNat_inj.mp hrank)

/-- Exact values are ordered as the ranks are, with ties. -/
theorem toRat_le_toRat : x.toRat ≤ y.toRat ↔ x.rank ≤ y.rank := by
  rw [← not_lt, toRat_lt_toRat, not_lt]

/-- What compares has its exact values in that order. -/
theorem toRat_le_of_le (h : x.le y = true) : x.toRat ≤ y.toRat :=
  toRat_le_toRat.mpr (of_decide_eq_true (Bool.and_eq_true_iff.mp h).2)

/-- What is not less than another number is at least as great, if neither is a
pattern that is no number. -/
theorem toRat_le_of_not_lt (hx : x.isNaN = false) (hy : y.isNaN = false) (h : ¬y.lt x = true) :
    x.toRat ≤ y.toRat := by
  rw [lt, hx, hy] at h
  exact toRat_le_toRat.mpr (not_lt.mp fun hless => h (decide_eq_true hless))

/-- A number between finite ones is finite. -/
theorem isFinite_of_between {low high x : Binary f} (hlow : low.isFinite = true)
    (hhigh : high.isFinite = true) (hxlow : low.le x = true) (hxhigh : x.le high = true) :
    x.isFinite = true := by
  have hlowRank := abs_lt.mp (abs_rank_lt_of_isFinite hlow)
  have hhighRank := abs_lt.mp (abs_rank_lt_of_isFinite hhigh)
  have hbelow : low.rank ≤ x.rank := of_decide_eq_true (Bool.and_eq_true_iff.mp hxlow).2
  have habove : x.rank ≤ high.rank := of_decide_eq_true (Bool.and_eq_true_iff.mp hxhigh).2
  have hx : x.rank = x.ordinal ∨ x.rank = -(x.ordinal : Int) := by
    rw [rank]
    cases x.negative
    · exact .inl rfl
    · exact .inr rfl
  refine decide_eq_true ?_
  omega

end Binary

end SearchQuery
