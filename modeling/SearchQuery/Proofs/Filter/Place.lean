import SearchQuery.Filter.Geo
import SearchQuery.Proofs.Accepted
import SearchQuery.Proofs.Binary.Integer
import SearchQuery.Proofs.Decimal.Places

/-!
# Places and boxes

A place is checked as it is given, and the corners of a box are printed with
six places. So what the engine sees of a box is not what was checked, but what
that is rounded to.

## What is proved

`box_printed` — the printed corners are within half of a millionth of the given
ones, their order is kept, and the longitudes stay within their limits, which
have no more than six places. The greatest latitude has eight, and what lies
above the middle between two multiples of a millionth is rounded past it: a
printed latitude is within the limit exactly if the given one does not pass
85.0511285.

So a box is accepted that the engine refuses: `exists_box_past_latitude`.
-/

namespace SearchQuery

namespace Filter

/-! ## Limits -/

theorem withinLimit_eq_ok {what : String} {limit x : Double} :
    withinLimit what limit x = .ok () ↔ limit.neg.le x = true ∧ x.le limit = true := by
  rw [withinLimit, ← Bool.and_eq_true_iff]
  split
  · next h => exact iff_of_true rfl h
  · next h => exact iff_of_false nofun h

theorem isFinite_of_withinLimit {what : String} {limit x : Double} (hlimit : limit.isFinite = true)
    (h : withinLimit what limit x = .ok ()) : x.isFinite = true := by
  obtain ⟨hlow, hhigh⟩ := withinLimit_eq_ok.mp h
  have hneg : limit.neg.isFinite = true := hlimit
  exact Binary.isFinite_of_between hneg hlimit hlow hhigh

/-- A coordinate has no greater magnitude than its limit has. -/
theorem magnitude_le_of_withinLimit {what : String} {limit x : Double}
    (h : withinLimit what limit x = .ok ()) : x.magnitude ≤ limit.toRat := by
  obtain ⟨hlow, hhigh⟩ := withinLimit_eq_ok.mp h
  have hlow' := Binary.toRat_le_of_le hlow
  rw [Binary.toRat_neg] at hlow'
  rw [← x.abs_toRat]
  exact abs_le.mpr ⟨hlow', Binary.toRat_le_of_le hhigh⟩

/-- A place is accepted when both of its coordinates are inside their limits. -/
theorem checkPlace_eq_ok {lon lat : Double} :
    checkPlace lon lat = .ok () ↔ withinLimit "longitude" maxLongitude lon = .ok () ∧
      withinLimit "latitude" maxLatitude lat = .ok () := by
  simp only [checkPlace, bind_eq_ok, exists_unit_eq_ok]

theorem maxLongitude_isFinite_and_toRat : maxLongitude.isFinite = true ∧ maxLongitude.toRat = 180 :=
  Binary.toRat_ofInt Format.double_holdsIntegers (n := 180) (by decide)

theorem maxLatitude_isFinite : maxLatitude.isFinite = true := by decide +kernel

/-- The greatest latitude lies between two multiples of a millionth. -/
theorem maxLatitude_between :
    (85051128 : Nat) * placeUnit 6 ≤ maxLatitude.toRat ∧
      maxLatitude.toRat < (85051129 : Nat) * placeUnit 6 := by
  have hunit : placeUnit 6 = 1 / 1000000 := by norm_num [placeUnit]
  rw [hunit]
  decide +kernel

/-! ## Coordinates -/

/-- A printed coordinate is within half of a millionth of the given one. -/
def IsNear (q : Rat) (x : Double) : Prop := |q - x.toRat| ≤ 1 / 2 * 10 ^ (-6 : Int)

theorem isNear_rounded (x : Double) : IsNear (x.rounded boxPlaces).toRat x := by
  have hhalf := Double.abs_toRat_rounded_sub_le boxPlaces x
  rw [placeUnit] at hhalf
  calc |(x.rounded boxPlaces).toRat - x.toRat| ≤ 10 ^ (-(boxPlaces : Int)) / 2 := hhalf
    _ = 1 / 2 * 10 ^ (-6 : Int) := by norm_num [boxPlaces]

/-- A limit of whole units is a limit of what is printed. -/
theorem abs_printed_le {x : Double} {n : Nat} (h : x.magnitude ≤ n * placeUnit 6) :
    |(x.rounded boxPlaces).toRat| ≤ n * placeUnit 6 := by
  have hunit := placeUnit_pos 6
  have hle := (Double.isNearestMultiple_digits boxPlaces x).le_of_le hunit
    (IsNearestMultiple.self hunit n) (by exact_mod_cast h)
  have hdigits : ((x.rounded boxPlaces).digits : Rat) ≤ n := by exact_mod_cast hle
  rw [Double.abs_toRat_rounded]
  exact mul_le_mul_of_nonneg_right hdigits hunit.le

/-- Printed longitudes keep within their limits. -/
theorem abs_printed_longitude_le {what : String} {x : Double}
    (h : withinLimit what maxLongitude x = .ok ()) : |(x.rounded boxPlaces).toRat| ≤ 180 := by
  have hlimit : (180000000 : Nat) * placeUnit 6 = 180 := by norm_num [placeUnit]
  have hmagnitude := magnitude_le_of_withinLimit h
  rw [maxLongitude_isFinite_and_toRat.2, ← hlimit] at hmagnitude
  exact (abs_printed_le hmagnitude).trans_eq hlimit

/-- Printed latitudes pass their limits by less than a unit. -/
theorem abs_printed_latitude_le {what : String} {x : Double}
    (h : withinLimit what maxLatitude x = .ok ()) :
    |(x.rounded boxPlaces).toRat| ≤ 85051129 / 10 ^ 6 := by
  have hlimit : (85051129 : Nat) * placeUnit 6 = 85051129 / 10 ^ 6 := by norm_num [placeUnit]
  have hmagnitude := (magnitude_le_of_withinLimit h).trans maxLatitude_between.2.le
  exact (abs_printed_le hmagnitude).trans_eq hlimit

/-- **A printed latitude is within the limit** exactly if the given one does
not pass the middle between the multiples around it. -/
theorem abs_printed_latitude_le_iff (x : Double) :
    |(x.rounded boxPlaces).toRat| ≤ maxLatitude.toRat ↔ |x.toRat| ≤ 850511285 / 10 ^ 7 := by
  have hunit := placeUnit_pos 6
  obtain ⟨hbelow, habove⟩ := maxLatitude_between
  have hmiddle : ((85051128 : Int) + 1 / 2) * placeUnit 6 = 850511285 / 10 ^ 7 := by
    norm_num [placeUnit]
  have heven := (Double.isNearestMultiple_digits boxPlaces x).le_iff_of_even hunit
    (by decide : (2 : Int) ∣ 85051128)
  rw [x.abs_toRat, ← hmiddle, ← heven, Double.abs_toRat_rounded]
  constructor
  · intro h
    have hlt := lt_of_mul_lt_mul_right (h.trans_lt habove) hunit.le
    have hdigits : (x.rounded boxPlaces).digits < 85051129 := by exact_mod_cast hlt
    omega
  · intro h
    have hdigits : ((x.rounded boxPlaces).digits : Rat) ≤ (85051128 : Nat) := by exact_mod_cast h
    exact (mul_le_mul_of_nonneg_right hdigits hunit.le).trans hbelow

/-! ## Corners -/

/-- The least and the greatest longitude and latitude of a box. -/
structure Corners (α : Type) where
  west : α
  south : α
  east : α
  north : α

namespace Corners

variable {α β : Type}

/-- Each of the four has what is related to it in its place. -/
structure Forall₂ (R : α → β → Prop) (c : Corners α) (d : Corners β) : Prop where
  west : R c.west d.west
  south : R c.south d.south
  east : R c.east d.east
  north : R c.north d.north

/-- The condition of a box with these texts for corners. -/
def expression (ref : String) (c : Corners String) : String :=
  ref ++ ":[" ++ c.west ++ " " ++ c.south ++ " " ++ c.east ++ " " ++ c.north ++ "]"

/-- The corners of the given ones with six places. -/
def rounded (c : Corners Double) : Corners Rat where
  west := (c.west.rounded boxPlaces).toRat
  south := (c.south.rounded boxPlaces).toRat
  east := (c.east.rounded boxPlaces).toRat
  north := (c.north.rounded boxPlaces).toRat

end Corners

/-- What a box is as it is printed, and what of it stays within the limits. -/
structure IsPrintedBox (printed : Corners Rat) (given : Corners Double) : Prop where
  near : Corners.Forall₂ IsNear printed given
  west_le_east : printed.west ≤ printed.east
  south_le_north : printed.south ≤ printed.north
  west_within : |printed.west| ≤ 180
  east_within : |printed.east| ≤ 180
  /-- A latitude is past the limit only where the given one is nearer to the
  multiple past it. -/
  south_within_iff : |printed.south| ≤ maxLatitude.toRat ↔ |given.south.toRat| ≤ 850511285 / 10 ^ 7
  north_within_iff : |printed.north| ≤ maxLatitude.toRat ↔ |given.north.toRat| ≤ 850511285 / 10 ^ 7
  south_le : |printed.south| ≤ 85051129 / 10 ^ 6
  north_le : |printed.north| ≤ 85051129 / 10 ^ 6

/-- What a box has passed: both places are known, and the first is not past
the second. -/
theorem withinBox_eq_ok {field : String} {given : Corners Double} {t : Filter}
    (h : withinBox field given.west given.south given.east given.north = .ok t) :
    checkPlace given.west given.south = .ok () ∧ checkPlace given.east given.north = .ok () ∧
      ¬given.east.lt given.west = true ∧ ¬given.north.lt given.south = true ∧
      t.build = Corners.expression ("@" ++ Escape.field field)
        ⟨given.west.fixed boxPlaces, given.south.fixed boxPlaces, given.east.fixed boxPlaces,
          given.north.fixed boxPlaces⟩ := by
  obtain ⟨⟨⟩, hlow, h⟩ := bind_eq_ok.mp (fieldRef_bind_eq_ok h)
  obtain ⟨⟨⟩, hhigh, h⟩ := bind_eq_ok.mp h
  obtain ⟨horder, h⟩ := refuse_eq_ok.mp h
  rw [Bool.or_eq_true, not_or] at horder
  cases h
  refine ⟨hlow, hhigh, horder.1, horder.2, ?_⟩
  have hjoined (west south east north : String) :
      " ".intercalate [west, south, east, north] =
        west ++ " " ++ south ++ " " ++ east ++ " " ++ north := rfl
  simp only [build, List.map_cons, List.map_nil, hjoined, Corners.expression, String.append_assoc]

/-- **The printed corners of a box** are near the given ones and in their order.
The longitudes stay within their limits, and the latitudes do but for the last
half of a millionth. -/
theorem box_printed {field : String} {given : Corners Double} {t : Filter}
    (h : withinBox field given.west given.south given.east given.north = .ok t) :
    ∃ (texts : Corners String) (printed : Corners Rat),
      t.build = texts.expression ("@" ++ Escape.field field) ∧
      Corners.Forall₂ (fun text q => Decimal.ReadsAs text.toList q) texts printed ∧
      IsPrintedBox printed given := by
  obtain ⟨hlow, hhigh, hlon, hlat, hbuild⟩ := withinBox_eq_ok h
  obtain ⟨hwest, hsouth⟩ := checkPlace_eq_ok.mp hlow
  obtain ⟨heast, hnorth⟩ := checkPlace_eq_ok.mp hhigh
  have hlongitude := maxLongitude_isFinite_and_toRat.1
  have hlatitude := maxLatitude_isFinite
  have hwest' := isFinite_of_withinLimit hlongitude hwest
  have hsouth' := isFinite_of_withinLimit hlatitude hsouth
  have heast' := isFinite_of_withinLimit hlongitude heast
  have hnorth' := isFinite_of_withinLimit hlatitude hnorth
  have hnumber {x : Double} (h : x.isFinite = true) : x.isNaN = false :=
    (Binary.isNaN_and_isInfinite_of_isFinite h).1
  refine ⟨_, given.rounded, hbuild, ?_, ?_⟩
  · exact ⟨Double.readsAs_fixed hwest' _, Double.readsAs_fixed hsouth' _,
      Double.readsAs_fixed heast' _, Double.readsAs_fixed hnorth' _⟩
  · exact {
      near := ⟨isNear_rounded _, isNear_rounded _, isNear_rounded _, isNear_rounded _⟩
      west_le_east := Double.toRat_rounded_le (Binary.toRat_le_of_not_lt (hnumber hwest') (hnumber heast') hlon)
      south_le_north := Double.toRat_rounded_le (Binary.toRat_le_of_not_lt (hnumber hsouth') (hnumber hnorth') hlat)
      west_within := abs_printed_longitude_le hwest
      east_within := abs_printed_longitude_le heast
      south_within_iff := abs_printed_latitude_le_iff _
      north_within_iff := abs_printed_latitude_le_iff _
      south_le := abs_printed_latitude_le hsouth
      north_le := abs_printed_latitude_le hnorth
    }

/-- The box as wide as the longitudes go. -/
theorem box_printed_widest :
    let given : Corners Double :=
      ⟨maxLongitude.neg, Binary.ofInt (-1), maxLongitude, Binary.ofInt 85⟩
    ∃ t, withinBox "place" given.west given.south given.east given.north = .ok t ∧
      ∃ (texts : Corners String) (printed : Corners Rat),
        t.build = texts.expression ("@" ++ Escape.field "place") ∧
        Corners.Forall₂ (fun text q => Decimal.ReadsAs text.toList q) texts printed ∧
        IsPrintedBox printed given := by
  intro given
  have hlow : checkPlace given.west given.south = .ok () :=
    checkPlace_eq_ok.mpr ⟨if_pos (by decide +kernel), if_pos (by decide +kernel)⟩
  have hhigh : checkPlace given.east given.north = .ok () :=
    checkPlace_eq_ok.mpr ⟨if_pos (by decide +kernel), if_pos (by decide +kernel)⟩
  have horder : ¬(given.east.lt given.west || given.north.lt given.south) = true := by
    decide +kernel
  obtain ⟨t, h⟩ : ∃ t, withinBox "place" given.west given.south given.east given.north = .ok t :=
    ⟨_, bind_eq_ok.mpr ⟨_, fieldRef_eq_ok (by decide), bind_eq_ok.mpr ⟨(), hlow,
      bind_eq_ok.mpr ⟨(), hhigh, refuse_eq_ok.mpr ⟨horder, rfl⟩⟩⟩⟩⟩
  exact ⟨t, h, box_printed h⟩

/-- **A box is accepted that the engine refuses.** Its north is the limit
itself, and six places print it past that. -/
theorem exists_box_past_latitude :
    (withinBox "place" Binary.zero Binary.zero Binary.zero maxLatitude).map build =
        .ok "@place:[0.000000 0.000000 0.000000 85.051129]" ∧
      Decimal.ReadsAs "85.051129".toList (85051129 / 10 ^ 6) ∧
      maxLatitude.toRat < 85051129 / 10 ^ 6 := by
  have hunits : (85051129 : Nat) * placeUnit 6 = 85051129 / 10 ^ 6 := by norm_num [placeUnit]
  have hprinted : (⟨false, 85051129, -6⟩ : Decimal).toRat = 85051129 / 10 ^ 6 := by
    rw [Decimal.toRat_eq]
    exact hunits
  exact ⟨by decide +kernel, ⟨_, by decide +kernel, hprinted⟩, hunits ▸ maxLatitude_between.2⟩

end Filter

end SearchQuery
