import SearchQuery.Proofs.Binary.Nearest

/-!
# No decimal is shorter

Of all the decimals that round to a number, its shortest one has the fewest
digits (`Binary.significantDigits_shortest_le`), whatever their units: the
search looks at two points on each of a few grids, and everything else that
reads back lies on a grid where one of the two does, or is no shorter.

Rounding keeps the order, so what reads back is an interval around the number
(`Binary.readsBack_of_between`). If any point of a grid is in it, then so is one
of the number's two neighbours there (`Binary.isSome_onGrid?_of_readsBack`), and
nothing reads back on a grid that was passed over. A decimal with fewer digits
on a finer grid would have a power of ten between it and the one that was
found, and that power of ten lies on a grid that was passed over.
-/

namespace SearchQuery

/-! ## Significant digits -/

namespace Decimal

/-- How many digits a whole number has, without the zeros that end it. -/
def significant (n : Nat) : Nat :=
  ((Nat.toDigits 10 n).reverse.dropWhile (· == '0')).length

/-- How many digits a decimal has from the first that is not zero to the last
that is not. -/
def significantDigits (d : Decimal) : Nat := significant d.digits

theorem digitChar_eq_zero {n : Nat} (hn : n < 10) : n.digitChar = '0' ↔ n = 0 := by
  revert n
  decide

/-- The last digit of a whole number. -/
theorem exists_reverse_toDigits (n : Nat) :
    ∃ rest, (Nat.toDigits 10 n).reverse = (n % 10).digitChar :: rest := by
  obtain hless | hmore := Nat.lt_or_ge n 10
  · exact ⟨[], by rw [Nat.toDigits_of_lt_base hless, Nat.mod_eq_of_lt hless]; rfl⟩
  · exact ⟨_, by rw [Nat.toDigits_of_base_le (by decide) hmore, List.reverse_append]; rfl⟩

/-- Every digit counts when the last is not zero. -/
theorem significant_of_mod_ne_zero {n : Nat} (h : n % 10 ≠ 0) :
    significant n = (Nat.toDigits 10 n).length := by
  obtain ⟨rest, hrest⟩ := exists_reverse_toDigits n
  have hlast : ((n % 10).digitChar == '0') = false :=
    beq_eq_false_iff_ne.mpr (mt (digitChar_eq_zero (Nat.mod_lt n (by decide))).mp h)
  rw [significant, hrest, List.dropWhile_cons_of_neg (by simp [hlast]), ← hrest,
    List.length_reverse]

/-- A zero at the end does not count. -/
theorem significant_mul_ten (n : Nat) : significant (n * 10) = significant n := by
  obtain rfl | hn := Nat.eq_zero_or_pos n
  · rfl
  · rw [significant, Nat.toDigits_of_base_le (by decide) (by omega),
      Nat.mul_div_cancel _ (by decide), Nat.mul_mod_left, List.reverse_append]
    rfl

theorem significant_mul_pow (n zeros : Nat) : significant (n * 10 ^ zeros) = significant n := by
  induction zeros with
  | zero => rw [Nat.pow_zero, Nat.mul_one]
  | succ zeros ih => rw [Nat.pow_succ, ← Nat.mul_assoc, significant_mul_ten, ih]

/-- A whole number is as many units as its significant digits say, of a power of ten. -/
theorem exists_eq_mul_pow (n : Nat) :
    ∃ m zeros, n = m * 10 ^ zeros ∧ m < 10 ^ significant n := by
  induction n using Nat.strong_induction_on with
  | _ n ih =>
    by_cases hlast : n % 10 = 0
    · obtain rfl | hpos := Nat.eq_zero_or_pos n
      · exact ⟨0, 0, rfl, by decide⟩
      · obtain ⟨k, rfl⟩ : ∃ k, n = k * 10 := ⟨n / 10, by omega⟩
        obtain ⟨m, zeros, hk, hm⟩ := ih k (by omega)
        refine ⟨m, zeros + 1, ?_, ?_⟩
        · rw [Nat.pow_succ, ← Nat.mul_assoc, ← hk]
        · rwa [significant_mul_ten]
    · refine ⟨n, 0, (Nat.mul_one n).symm, ?_⟩
      rw [significant_of_mod_ne_zero hlast]
      exact (Nat.length_toDigits_le_iff (by decide) Nat.length_toDigits_pos).mp le_rfl

/-- The magnitude of a decimal in its significant digits. -/
theorem exists_magnitude_eq (d : Decimal) :
    ∃ (m : Nat) (e : Int), d.magnitude = m * 10 ^ e ∧ m < 10 ^ d.significantDigits := by
  obtain ⟨m, zeros, hdigits, hm⟩ := exists_eq_mul_pow d.digits
  refine ⟨m, zeros + d.exponent, ?_, hm⟩
  calc d.magnitude = (d.digits : Rat) * 10 ^ d.exponent := rfl
    _ = m * 10 ^ zeros * 10 ^ d.exponent := by rw [hdigits]; push_cast; rfl
    _ = m * 10 ^ (zeros + d.exponent) := by
      rw [zpow_add₀ (by norm_num), zpow_natCast, mul_assoc]

/-! ## Units -/

/-- Ten units are one of the next coarser grid. -/
theorem mul_ten_mul_zpow (n : Nat) (e : Int) :
    ((n * 10 : Nat) : Rat) * 10 ^ e = n * 10 ^ (e + 1) := by
  rw [zpow_add_one₀ (by norm_num)]
  push_cast
  ring

/-- A point of a grid is one of every finer grid. -/
theorem natCast_mul_zpow (n : Nat) {e e' : Int} (h : e ≤ e') :
    (n : Rat) * 10 ^ e' = (n * 10 ^ (e' - e).toNat : Nat) * 10 ^ e := by
  have hpower : (10 : Rat) ^ e' = 10 ^ (e' - e).toNat * 10 ^ e := by
    rw [← zpow_natCast, ← zpow_add₀ (by norm_num), Int.toNat_of_nonneg (by omega),
      Int.sub_add_cancel]
  rw [hpower]
  push_cast
  ring

/-- Decimals of one magnitude have the same significant digits. -/
theorem significantDigits_eq {d d' : Decimal} (h : d.magnitude = d'.magnitude) :
    d.significantDigits = d'.significantDigits := by
  wlog hfiner : d.exponent ≤ d'.exponent
  · exact (this h.symm (by omega)).symm
  have hunits : (d.digits : Rat) * 10 ^ d.exponent
      = (d'.digits * 10 ^ (d'.exponent - d.exponent).toNat : Nat) * 10 ^ d.exponent :=
    h.trans (natCast_mul_zpow d'.digits hfiner)
  have hdigits := mul_right_cancel₀ (zpow_ne_zero d.exponent (by norm_num)) hunits
  rw [significantDigits, Nat.cast_inj.mp hdigits, significant_mul_pow, significantDigits]

theorem magnitude_nonneg (d : Decimal) : 0 ≤ d.magnitude :=
  mul_nonneg (Nat.cast_nonneg _) (zpow_nonneg (by norm_num) d.exponent)

end Decimal

namespace Binary

variable {f : Format} {x : Binary f} {tie : Tie}

/-! ## What reads back -/

theorem readsBack_magnitude (x : Binary f) : x.readsBack x.magnitude = true :=
  beq_iff_eq.mpr x.nearest_magnitude

/-- What reads back is an interval. -/
theorem readsBack_of_between {q r p : Rat} (hq : x.readsBack q = true) (hr : x.readsBack r = true)
    (hqp : q ≤ p) (hpr : p ≤ r) : x.readsBack p = true := by
  rw [readsBack, beq_iff_eq] at hq hr ⊢
  exact le_antisymm (hr ▸ Format.nearest_mono hpr) (hq ▸ Format.nearest_mono hqp)

/-- No multiple of zero reads back as a number that is not zero. -/
theorem ne_zero_of_readsBack (hx : x.isZero = false) {m : Nat} {e : Int}
    (h : x.readsBack (m * 10 ^ e) = true) : m ≠ 0 := by
  rintro rfl
  rw [Nat.cast_zero, zero_mul, readsBack, Format.nearest, if_pos le_rfl, beq_iff_eq] at h
  rw [isZero, ← h] at hx
  cases hx

/-- Between what has digits enough and what has fewer, on a grid that is not
coarser, lies a power of ten. It is a point of the next coarser grid. -/
theorem readsBack_pow_of_lt {n m places : Nat} {e e' : Int} (hn : x.readsBack (n * 10 ^ e) = true)
    (hm : x.readsBack (m * 10 ^ e') = true) (hlow : 10 ^ (places + 1) ≤ n)
    (hfew : m < 10 ^ (places + 1)) (hfine : e' ≤ e) :
    x.readsBack ((10 ^ places : Nat) * 10 ^ (e + 1)) = true := by
  rw [← Decimal.mul_ten_mul_zpow, ← Nat.pow_succ]
  refine readsBack_of_between hm hn ?_ ?_
  · gcongr
    norm_num
  · gcongr

/-- A grid whose neighbour below reads back gives something. -/
theorem isSome_onGrid?_below (tie : Tie) {e : Int}
    (h : x.readsBack ((x.magnitude / Rat.zpow 10 e).floor.toNat * Rat.zpow 10 e) = true) :
    (x.onGrid? tie e).isSome = true := by
  unfold onGrid?
  dsimp only
  rw [h]
  split <;> first | rfl | contradiction

/-- A grid on which some point reads back gives something: the neighbour on that
point's side lies between it and the number. -/
theorem isSome_onGrid?_of_readsBack (tie : Tie) {m : Nat} {e : Int}
    (h : x.readsBack (m * 10 ^ e) = true) : (x.onGrid? tie e).isSome = true := by
  have hstep : (0 : Rat) < 10 ^ e := zpow_pos (by norm_num) e
  obtain ⟨hle, hlt⟩ := floor_toNat_le_and_lt (div_nonneg x.magnitude_nonneg hstep.le)
  rw [le_div_iff₀ hstep] at hle
  rw [div_lt_iff₀ hstep] at hlt
  obtain hbelow | habove := Nat.lt_or_ge (x.magnitude / 10 ^ e).floor.toNat m
  · refine isSome_onGrid? tie (readsBack_of_between x.readsBack_magnitude h ?_ ?_)
    · push_cast
      exact hlt.le
    · change (((x.magnitude / 10 ^ e).floor.toNat + 1 : Nat) : Rat) * 10 ^ e ≤ _
      gcongr
      exact hbelow
  · refine isSome_onGrid?_below tie (readsBack_of_between h x.readsBack_magnitude ?_ hle)
    change (m : Rat) * 10 ^ e ≤ (x.magnitude / 10 ^ e).floor.toNat * 10 ^ e
    gcongr

/-- What is taken from a grid is a neighbour of the number. -/
theorem le_of_onGrid? {e : Int} {n : Nat} (h : x.onGrid? tie e = some n) :
    n ≤ (x.magnitude / 10 ^ e).floor.toNat + 1 := by
  change n ≤ (x.magnitude / Rat.zpow 10 e).floor.toNat + 1
  unfold onGrid? at h
  dsimp only at h
  generalize (x.magnitude / Rat.zpow 10 e).floor.toNat = low at h ⊢
  have hchosen : tie.choose low ≤ low + 1 := by
    cases tie <;> simp only [Tie.choose] <;> omega
  split at h
  · cases h
    split_ifs <;> omega
  · cases h
    omega
  · cases h
    omega
  · cases h

/-! ## The first grid -/

/-- The search begins no lower than the number. -/
theorem magnitude_le_zpow_decimalTop (hx : x.isZero = false) :
    x.magnitude ≤ 10 ^ x.decimalTop := by
  have hpos := magnitude_pos hx
  unfold decimalTop
  split
  · next hone => exact (zpow_length_toDigits_floor hone).2.le
  · next hone =>
    have hinverse : 1 ≤ 1 / x.magnitude := (one_le_div hpos).mpr (not_le.mp hone).le
    have hle := (zpow_length_toDigits_floor hinverse).1
    rw [one_div, le_inv_comm₀ (by positivity) hpos, ← zpow_neg, neg_sub] at hle
    rw [one_div]
    exact hle

/-- **The shortest decimal stands on the coarsest grid**: on a coarser one
nothing reads back, unless it has a single digit on the first. -/
theorem exists_shortest_eq (tie : Tie) (hx : x.isZero = false) :
    ∃ (n : Nat) (e : Int), x.shortest tie = ⟨x.negative, n, e⟩ ∧
      x.readsBack (n * 10 ^ e) = true ∧
      ((e = x.decimalTop ∧ n < 10) ∨
        ∀ e' : Int, e < e' → ∀ m : Nat, x.readsBack (m * 10 ^ e') = false) := by
  obtain ⟨n, step, hgrid, hshortest, hearlier⟩ := exists_onGrid?_eq_shortest tie hx
  refine ⟨n, _, hshortest, readsBack_of_onGrid? hgrid, ?_⟩
  obtain rfl | hstep := Nat.eq_zero_or_pos step
  · left
    rw [Int.natCast_zero, Int.sub_zero] at hgrid ⊢
    refine ⟨rfl, ?_⟩
    have htop : (0 : Rat) < 10 ^ x.decimalTop := zpow_pos (by norm_num) _
    have hquotient : x.magnitude / 10 ^ x.decimalTop ≤ 1 :=
      (div_le_one htop).mpr (magnitude_le_zpow_decimalTop hx)
    have hfloor := (floor_toNat_le_and_lt (div_nonneg x.magnitude_nonneg htop.le)).1
    have hlow : (x.magnitude / 10 ^ x.decimalTop).floor.toNat ≤ 1 := by
      exact_mod_cast hfloor.trans hquotient
    have hle := le_of_onGrid? hgrid
    omega
  · right
    intro e' he' m
    rw [Bool.eq_false_iff]
    intro hreads
    -- the point lies on the first grid too, if its own is coarser still
    obtain ⟨earlier, hlt, hle⟩ : ∃ earlier : Nat, earlier < step ∧ x.decimalTop - earlier ≤ e' :=
      ⟨(x.decimalTop - e').toNat, by omega, by omega⟩
    rw [Decimal.natCast_mul_zpow m hle] at hreads
    have hsome := isSome_onGrid?_of_readsBack tie hreads
    rw [hearlier earlier hlt] at hsome
    cases hsome

/-! ## The shortest decimal -/

/-- The shortest decimal does not end in zero. -/
theorem digits_shortest_mod_ne_zero (tie : Tie) (hx : x.isZero = false) :
    (x.shortest tie).digits % 10 ≠ 0 := by
  obtain ⟨n, e, hshortest, hreads, hgrids⟩ := exists_shortest_eq tie hx
  rw [hshortest]
  change n % 10 ≠ 0
  intro hlast
  obtain ⟨k, rfl⟩ : ∃ k, n = k * 10 := ⟨n / 10, by omega⟩
  obtain ⟨-, hsmall⟩ | hnone := hgrids
  · have hsome := ne_zero_of_readsBack hx hreads
    omega
  · rw [Decimal.mul_ten_mul_zpow, hnone (e + 1) (by omega) k] at hreads
    cases hreads

/-- The shortest decimal of a whole number is counted in whole units. -/
theorem exponent_shortest_nonneg (tie : Tie) (hx : x.isZero = false) {whole : Nat}
    (hwhole : x.magnitude = whole) : 0 ≤ (x.shortest tie).exponent := by
  obtain ⟨n, e, hshortest, -, hgrids⟩ := exists_shortest_eq tie hx
  rw [hshortest]
  change 0 ≤ e
  obtain ⟨rfl, -⟩ | hnone := hgrids
  · have hone : 1 ≤ x.magnitude := by
      have hpos := magnitude_pos hx
      rw [hwhole] at hpos ⊢
      exact_mod_cast hpos
    rw [decimalTop, if_pos hone]
    exact Int.natCast_nonneg _
  · by_contra hnegative
    have hreads := hnone 0 (by omega) whole
    rw [zpow_zero, mul_one, ← hwhole, x.readsBack_magnitude] at hreads
    cases hreads

/-- **No decimal is shorter**: one that rounds to the number has as many
significant digits at least. -/
theorem significantDigits_shortest_le (tie : Tie) (x : Binary f) {d : Decimal}
    (hd : f.nearest d.magnitude = x.ordinal) :
    (x.shortest tie).significantDigits ≤ d.significantDigits := by
  cases hx : x.isZero with
  | true =>
    have hnone : Decimal.significant 0 = 0 := by decide
    rw [shortest, hx, if_pos rfl, Decimal.significantDigits, hnone]
    exact Nat.zero_le _
  | false =>
    have hlast := digits_shortest_mod_ne_zero tie hx
    obtain ⟨n, e, hshortest, hreads, hgrids⟩ := exists_shortest_eq tie hx
    rw [hshortest] at hlast ⊢
    change n % 10 ≠ 0 at hlast
    rw [Decimal.significantDigits, Decimal.significant_of_mod_ne_zero hlast]
    obtain ⟨m, e', hmagnitude, hm⟩ := d.exists_magnitude_eq
    have hd' : x.readsBack (m * 10 ^ e') = true := hmagnitude ▸ beq_iff_eq.mpr hd
    obtain ⟨length, hlength⟩ : ∃ length, (Nat.toDigits 10 n).length = length + 1 :=
      ⟨_, (Nat.succ_pred_eq_of_pos Nat.length_toDigits_pos).symm⟩
    have hlow : 10 ^ length ≤ n :=
      pow_le_of_length_toDigits (by rintro rfl; exact hlast rfl) hlength
    by_contra hmore
    have hfew : m < 10 ^ length :=
      hm.trans_le (Nat.pow_le_pow_right (by decide) (by omega))
    -- the other decimal has a digit at least, so this one has two
    obtain ⟨places, rfl⟩ : ∃ places, length = places + 1 := by
      refine ⟨length - 1, (Nat.sub_add_cancel (Nat.one_le_iff_ne_zero.mpr ?_)).symm⟩
      rintro rfl
      have hsome := ne_zero_of_readsBack hx hd'
      omega
    obtain ⟨-, hsmall⟩ | hnone := hgrids
    · have hten : 10 ≤ 10 ^ (places + 1) := Nat.le_self_pow (Nat.succ_ne_zero _) 10
      omega
    · obtain hcoarse | hfine := lt_or_ge e e'
      · rw [hnone e' hcoarse m] at hd'
        cases hd'
      · have hpower := readsBack_pow_of_lt hreads hd' hlow hfew hfine
        rw [hnone (e + 1) (by omega) (10 ^ places)] at hpower
        cases hpower

end Binary

/-! ## Rounding decimals -/

namespace Decimal

variable {f : Format} {x : Binary f}

/-- A decimal rounds to the number that has its sign and is nearest. -/
def RoundsTo (d : Decimal) (x : Binary f) : Prop :=
  x.negative = d.negative ∧ x.IsNearest d.magnitude

/-- It is the number that is made of the sign and the magnitude. -/
theorem roundsTo_iff (hf : 1 ≤ f.fractionBits) (hx : x.isFinite = true) {d : Decimal} :
    d.RoundsTo x ↔ Binary.ofMagnitude d.negative d.magnitude = x := by
  have hlt := of_decide_eq_true hx
  constructor
  · rintro ⟨hnegative, hnearest⟩
    have hordinal := hnearest.ordinal_eq hf d.magnitude_nonneg hx
    obtain ⟨hmade, hmade'⟩ := Binary.ofOrdinal_of_lt (f := f) (hordinal ▸ hlt) d.negative
    exact Binary.ext (hmade.trans hnegative.symm) (hmade'.trans hordinal.symm)
  · rintro rfl
    have hn : f.nearest d.magnitude < f.infinity := by
      by_contra hpast
      rw [Binary.ofMagnitude, Binary.ofOrdinal, dif_neg hpast] at hlt
      exact lt_irrefl _ hlt
    obtain ⟨hnegative, hordinal⟩ := Binary.ofOrdinal_of_lt hn d.negative
    exact ⟨hnegative, Binary.isNearest_of_ordinal_eq hf d.magnitude_nonneg hordinal⟩

end Decimal

end SearchQuery
