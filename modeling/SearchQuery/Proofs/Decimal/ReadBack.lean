import Mathlib.Tactic.FieldSimp
import SearchQuery.Decimal.Shortest
import SearchQuery.Proofs.Binary.Widening

/-!
# The shortest decimal reads back

The search for the shortest decimal ends with a decimal that rounds to the
number it was made from (`Binary.nearest_shortest`), for every number of
every format.

What the search gives has been read back, so all that is left is that it
ends. A magnitude less than half a unit above a number is rounded down to it
(`Format.IsCanonical.nearest_eq_of_lt`), and on the last grid the neighbour
above lies as close as that: it is at most one step of the grid away, and
the steps have by then shrunk below half a unit.
-/

namespace SearchQuery

/-! ## Rounding down -/

/-- The whole part of a rational that is not negative. -/
theorem floor_toNat_le_and_lt {q : Rat} (hq : 0 ≤ q) :
    (q.floor.toNat : Rat) ≤ q ∧ q < q.floor.toNat + 1 := by
  have hle := Rat.floor_le q
  have hlt := Rat.lt_floor_add_one q
  have hfloor : 0 ≤ q.floor := Rat.le_floor_iff.mpr (by exact_mod_cast hq)
  have hcast : ((q.floor.toNat : Int) : Rat) = q.floor := by rw [Int.toNat_of_nonneg hfloor]
  push_cast at hcast hlt
  exact ⟨by linarith, by linarith⟩

/-- Less than half above a whole number, rounding takes it. -/
theorem roundEven_eq_of_lt {n : Nat} {x : Rat} (hlow : (n : Rat) ≤ x) (hhigh : x < n + 1 / 2) :
    roundEven x = n := by
  have hfloor : x.floor = n := by
    have hle := Rat.floor_le x
    have hlt := Rat.lt_floor_add_one x
    push_cast at hlt
    have hbelow : (x.floor : Rat) < (n : Int) + 1 := by push_cast; linarith
    have habove : ((n : Int) : Rat) < x.floor + 1 := by push_cast; linarith
    norm_cast at hbelow habove
    omega
  simp only [roundEven, hfloor, Int.toNat_natCast]
  exact if_pos (by linarith)

/-- Less than half a unit above a canonical number of units, rounding takes
it: the leading digit is the same. -/
theorem Format.IsCanonical.nearest_eq_of_lt {f : Format} {n : Nat} {unit : Int}
    (h : f.IsCanonical n unit) (hn : n ≠ 0) {x : Rat} (hlow : (n : Rat) * 2 ^ unit ≤ x)
    (hhigh : x < (n + 1 / 2) * 2 ^ unit) : f.nearest x = f.ordinalOf n unit := by
  have hunit := two_zpow_pos unit
  have hone : (1 : Rat) ≤ n := by exact_mod_cast Nat.one_le_iff_ne_zero.mpr hn
  have hpos : 0 < x := lt_of_lt_of_le (by positivity) hlow
  have hleading : binaryExponent x = n.log2 + unit := by
    have hlog : (2 : Rat) ^ (n.log2 : Int) ≤ n := by exact_mod_cast Nat.log2_self_le hn
    have hnext : (n : Rat) + 1 ≤ 2 ^ ((n.log2 : Int) + 1) := by exact_mod_cast Nat.lt_log2_self
    apply binaryExponent_eq
    · calc (2 : Rat) ^ ((n.log2 : Int) + unit) = 2 ^ (n.log2 : Int) * 2 ^ unit :=
            zpow_add₀ two_ne_zero _ _
        _ ≤ n * 2 ^ unit := by gcongr
        _ ≤ x := hlow
    · calc x < (n + 1 / 2) * 2 ^ unit := hhigh
        _ ≤ 2 ^ ((n.log2 : Int) + 1) * 2 ^ unit := by
          gcongr
          linarith
        _ = 2 ^ ((n.log2 : Int) + unit + 1) := by
          rw [← zpow_add₀ two_ne_zero]
          congr 1
          ring
  have hexponent : f.unitExponent x = unit := by
    rw [← h.unitExponent_eq hn, unitExponent, unitExponent, hleading,
      binaryExponent_natCast_mul hn]
  have hround : roundEven (x / 2 ^ unit) = n :=
    roundEven_eq_of_lt ((le_div_iff₀ hunit).mpr hlow) ((div_lt_iff₀ hunit).mpr hhigh)
  simp only [nearest, if_neg (not_le.mpr hpos), hexponent, ordinalOf]
  exact congrArg _ hround

namespace Binary

variable {f : Format} {x : Binary f}

/-- A number that is not zero has units. -/
theorem significand_ne_zero (hx : x.isZero = false) : x.significand ≠ 0 := by
  intro hsig
  have hordinal := x.ordinalOf_significand
  have hpos := f.fractions_pos
  rw [isZero, beq_eq_false_iff_ne] at hx
  obtain hunit | hleading := x.isCanonical_significand.leading
  · rw [Format.ordinalOf, hsig, hunit, Int.sub_self] at hordinal
    simp at hordinal
    exact hx hordinal.symm
  · omega

theorem magnitude_pos (hx : x.isZero = false) : 0 < x.magnitude := by
  have hsig : 0 < x.significand := Nat.pos_of_ne_zero (significand_ne_zero hx)
  exact mul_pos (by exact_mod_cast hsig) (two_zpow_pos _)

/-! ## The grids -/

/-- A whole number has no more digits than its size asks for. -/
theorem pow_le_of_length_toDigits {n length : Nat} (hn : n ≠ 0)
    (hlength : (Nat.toDigits 10 n).length = length + 1) : 10 ^ length ≤ n := by
  by_contra hless
  obtain rfl | hpos := Nat.eq_zero_or_pos length
  · omega
  · have hshort := (Nat.length_toDigits_le_iff (by decide) hpos).mpr (not_le.mp hless)
    omega

/-- How many digits the whole part of a rational has says between which
powers of ten it lies. -/
theorem zpow_length_toDigits_floor {q : Rat} (hq : 1 ≤ q) :
    (10 : Rat) ^ (((Nat.toDigits 10 q.floor.toNat).length : Int) - 1) ≤ q ∧
      q < 10 ^ ((Nat.toDigits 10 q.floor.toNat).length : Int) := by
  obtain ⟨hle, hlt⟩ := floor_toNat_le_and_lt (zero_le_one.trans hq)
  generalize q.floor.toNat = n at hle hlt ⊢
  have hpos : n ≠ 0 := by
    rintro rfl
    push_cast at hlt
    linarith
  obtain ⟨length, hlength⟩ : ∃ length, (Nat.toDigits 10 n).length = length + 1 :=
    ⟨_, (Nat.succ_pred_eq_of_pos Nat.length_toDigits_pos).symm⟩
  rw [hlength]
  have hhigh : n < 10 ^ (length + 1) :=
    (Nat.length_toDigits_le_iff (by decide) (Nat.succ_pos _)).mp hlength.le
  have hlow : 10 ^ length ≤ n := pow_le_of_length_toDigits hpos hlength
  constructor
  · calc (10 : Rat) ^ (((length + 1 : Nat) : Int) - 1) = ((10 ^ length : Nat) : Rat) := by
          push_cast
          rw [add_sub_cancel_right, zpow_natCast]
      _ ≤ n := by exact_mod_cast hlow
      _ ≤ q := hle
  · calc q < n + 1 := hlt
      _ ≤ ((10 ^ (length + 1) : Nat) : Rat) := by exact_mod_cast hhigh
      _ = 10 ^ ((length + 1 : Nat) : Int) := by
        push_cast
        norm_cast

/-- The search begins at most one power of ten above the magnitude. -/
theorem zpow_decimalTop_le (hx : x.isZero = false) :
    (10 : Rat) ^ (x.decimalTop - 1) ≤ x.magnitude := by
  have hpos := magnitude_pos hx
  unfold decimalTop
  split
  · next hone => exact (zpow_length_toDigits_floor hone).1
  · next hone =>
    have hinverse : 1 ≤ 1 / x.magnitude := (one_le_div hpos).mpr (not_le.mp hone).le
    have hlt := (zpow_length_toDigits_floor hinverse).2
    rw [one_div, inv_lt_comm₀ hpos (by positivity), ← zpow_neg] at hlt
    rw [sub_sub_cancel_left]
    rw [one_div]
    exact hlt.le

/-- The neighbour above on the last grid reads back. -/
theorem readsBack_last (hx : x.isZero = false) {exponent : Int}
    (hexponent : exponent = x.decimalTop - (f.fractionBits + 3 : Nat)) :
    x.readsBack (((x.magnitude / Rat.zpow 10 exponent).floor.toNat + 1 : Nat)
      * Rat.zpow 10 exponent) = true := by
  have hsig := significand_ne_zero hx
  have hcanonical := x.isCanonical_significand
  have hpos := magnitude_pos hx
  have hunit := two_zpow_pos x.exponent
  set step : Rat := Rat.zpow 10 exponent with hstep
  have hstepPos : 0 < step := zpow_pos (by norm_num) exponent
  set low := (x.magnitude / step).floor.toNat with hlow
  have hmagnitude : x.magnitude = x.significand * 2 ^ x.exponent := rfl
  have hnear : x.magnitude ≤ (low + 1 : Nat) * step ∧
      (low + 1 : Nat) * step ≤ x.magnitude + step := by
    obtain ⟨hle, hlt⟩ := floor_toNat_le_and_lt (div_pos hpos hstepPos).le
    rw [← hlow, le_div_iff₀ hstepPos] at hle
    rw [← hlow, div_lt_iff₀ hstepPos] at hlt
    push_cast
    exact ⟨hlt.le, by linarith⟩
  have hsmall : step < 1 / 2 * 2 ^ x.exponent := by
    have hfits : (x.significand : Rat) < 2 ^ (f.fractionBits + 1) := by
      have hlt := hcanonical.lt
      rw [Format.fractions_eq, ← Nat.pow_succ'] at hlt
      exact_mod_cast hlt
    have hpowers : (2 : Rat) ^ (f.fractionBits + 2) ≤ 10 ^ (f.fractionBits + 2) := by
      gcongr
      norm_num
    have htop : step = 10 ^ (x.decimalTop - 1) / 10 ^ (f.fractionBits + 2) := by
      rw [← zpow_natCast, ← zpow_sub₀ (by norm_num)]
      change (10 : Rat) ^ exponent = _
      congr 1
      push_cast at hexponent ⊢
      omega
    calc step = 10 ^ (x.decimalTop - 1) / 10 ^ (f.fractionBits + 2) := htop
      _ ≤ x.magnitude / 10 ^ (f.fractionBits + 2) := by
        gcongr
        exact zpow_decimalTop_le hx
      _ < 2 ^ (f.fractionBits + 1) * 2 ^ x.exponent / 10 ^ (f.fractionBits + 2) := by
        rw [hmagnitude]
        gcongr
      _ ≤ 2 ^ (f.fractionBits + 1) * 2 ^ x.exponent / 2 ^ (f.fractionBits + 2) := by gcongr
      _ = 1 / 2 * 2 ^ x.exponent := by
        rw [pow_succ (2 : Rat) (f.fractionBits + 1)]
        field_simp
  rw [readsBack, beq_iff_eq, ← x.ordinalOf_significand]
  refine hcanonical.nearest_eq_of_lt hsig ?_ ?_
  · rw [← hmagnitude]
    exact hnear.1
  · rw [add_mul, ← hmagnitude]
    exact lt_of_le_of_lt hnear.2 (by linarith)

/-! ## The search -/

/-- What is taken from a grid has been read back. -/
theorem readsBack_of_onGrid? {tie : Tie} {exponent : Int} {n : Nat}
    (h : x.onGrid? tie exponent = some n) : x.readsBack (n * Rat.zpow 10 exponent) = true := by
  unfold onGrid? at h
  dsimp only at h
  split at h
  · next hlow hhigh =>
    cases h
    split_ifs
    · exact hlow
    · exact hhigh
    · cases tie with
      | away => exact hhigh
      | even =>
        obtain heven | hodd := Nat.mod_two_eq_zero_or_one
          (x.magnitude / Rat.zpow 10 exponent).floor.toNat
        · rwa [Tie.choose, heven]
        · rwa [Tie.choose, hodd]
  · next hlow _ =>
    cases h
    exact hlow
  · next _ hhigh =>
    cases h
    exact hhigh
  · cases h

/-- A grid whose neighbour above reads back gives something. -/
theorem isSome_onGrid? {exponent : Int} (tie : Tie)
    (h : x.readsBack (((x.magnitude / Rat.zpow 10 exponent).floor.toNat + 1 : Nat)
      * Rat.zpow 10 exponent) = true) : (x.onGrid? tie exponent).isSome = true := by
  unfold onGrid?
  dsimp only
  rw [h]
  split <;> first | rfl | contradiction

/-- What is less than one of an increasing list stands before it. -/
theorem mem_of_lt_of_pairwise {before rest : List Nat} {a b : Nat}
    (hsorted : (before ++ a :: rest).Pairwise (· < ·)) (hb : b ∈ before ++ a :: rest)
    (hlt : b < a) : b ∈ before := by
  obtain hbefore | hrest := List.mem_append.mp hb
  · exact hbefore
  · obtain rfl | hrest := List.mem_cons.mp hrest
    · exact absurd hlt (lt_irrefl _)
    · have hafter := List.rel_of_pairwise_cons (List.pairwise_append.mp hsorted).2.1 hrest
      exact absurd (hlt.trans hafter) (lt_irrefl _)

/-- The search ends on the first grid that gives something. -/
theorem exists_onGrid?_eq_shortest (tie : Tie) (hx : x.isZero = false) :
    ∃ (n step : Nat), x.onGrid? tie (x.decimalTop - step) = some n ∧
      x.shortest tie = ⟨x.negative, n, x.decimalTop - step⟩ ∧
      ∀ earlier : Nat, earlier < step → x.onGrid? tie (x.decimalTop - earlier) = none := by
  rw [shortest, hx, if_neg Bool.false_ne_true]
  dsimp only
  generalize hfound : List.findSome? _ (List.range (f.fractionBits + 4)) = found
  cases found with
  | none =>
    have hlast := List.findSome?_eq_none_iff.mp hfound (f.fractionBits + 3)
      (List.mem_range.mpr (Nat.lt_succ_self _))
    have hsome := isSome_onGrid? tie (readsBack_last hx rfl)
    rw [Option.map_eq_none_iff.mp hlast] at hsome
    cases hsome
  | some d =>
    obtain ⟨before, step, rest, hrange, hstep, hbefore⟩ := List.findSome?_eq_some_iff.mp hfound
    obtain ⟨n, hn, rfl⟩ := Option.map_eq_some_iff.mp hstep
    refine ⟨n, step, hn, rfl, fun earlier hearlier => Option.map_eq_none_iff.mp (hbefore _ ?_)⟩
    have hmem : step ∈ List.range (f.fractionBits + 4) := by
      rw [hrange]
      exact List.mem_append_right _ List.mem_cons_self
    refine mem_of_lt_of_pairwise (hrange ▸ List.pairwise_lt_range) ?_ hearlier
    rw [← hrange, List.mem_range]
    exact hearlier.trans (List.mem_range.mp hmem)

/-- **The shortest decimal reads back**: it has the sign of the number and
rounds to its magnitude. -/
theorem nearest_shortest (tie : Tie) (x : Binary f) :
    (x.shortest tie).negative = x.negative ∧ f.nearest (x.shortest tie).magnitude = x.ordinal := by
  cases hx : x.isZero with
  | true =>
    rw [shortest, hx, if_pos rfl, beq_iff_eq.mp hx]
    exact ⟨rfl, if_pos (by simp [Decimal.magnitude])⟩
  | false =>
    obtain ⟨n, step, hgrid, hshortest, -⟩ := exists_onGrid?_eq_shortest tie hx
    rw [hshortest]
    exact ⟨rfl, beq_iff_eq.mp (readsBack_of_onGrid? hgrid)⟩

/-- A finite number is what its shortest decimal is rounded to. -/
theorem ofMagnitude_shortest (tie : Tie) {x : Binary f} (hx : x.isFinite = true) :
    ofMagnitude (x.shortest tie).negative (x.shortest tie).magnitude = x := by
  obtain ⟨hnegative, hordinal⟩ := x.nearest_shortest tie
  obtain ⟨hnegative', hordinal'⟩ := ofOrdinal_of_lt (of_decide_eq_true hx) x.negative
  rw [ofMagnitude, hnegative, hordinal]
  exact Binary.ext hnegative' hordinal'

end Binary

end SearchQuery
