import Mathlib.Data.List.DropRight
import SearchQuery.Proofs.Decimal.Plain
import SearchQuery.Proofs.Decimal.Rounded

/-!
# Numbers with places

A number with a fixed count of places is a numeral of exactly so many
(`Numeral`), it says the nearest multiple of the unit of the last place, and
a sign stands only before what is less than zero (`Double.IsFixed`). The
trimmed number is that numeral without the zeros that end its places
(`Numeral.plain`), so the two say the same.
-/

namespace SearchQuery

/-! ## Numerals -/

/-- A numeral without an exponent. A zero leads the whole part only as its one
digit. -/
structure Numeral where
  isNegative : Bool
  whole : List Char
  places : List Char
  isDigit_of_mem : ∀ c ∈ whole ++ places, c.isDigit = true
  whole_ne_nil : whole ≠ []
  whole_eq_of_head : whole.head? = some '0' → whole = ['0']

namespace Numeral

/-- The digits as they are written: a point stands only before places. -/
def unsigned (n : Numeral) : List Char :=
  n.whole ++ (if n.places.isEmpty then [] else '.' :: n.places)

/-- The numeral as it is written. -/
def text (n : Numeral) : List Char := (if n.isNegative then ['-'] else []) ++ n.unsigned

/-- The decimal of the digits. -/
def decimal (n : Numeral) : Decimal :=
  ⟨n.isNegative, Nat.ofDigitChars 10 (n.whole ++ n.places) 0, -(n.places.length : Int)⟩

/-- A numeral without its sign is read as the decimal that it says. -/
theorem unsigned?_unsigned (negative : Bool) (n : Numeral) :
    Decimal.unsigned? negative n.unsigned = some { n.decimal with negative } := by
  obtain ⟨hwhole, hplaces⟩ := List.forall_mem_append.mp n.isDigit_of_mem
  have hsome : n.whole.isEmpty = false := List.isEmpty_eq_false_iff.mpr n.whole_ne_nil
  rw [unsigned, decimal]
  cases hmore : n.places.isEmpty with
  | true =>
    obtain ⟨htake, hdrop⟩ := takeWhile_and_dropWhile_append [] hwhole (by simp)
    rw [if_pos rfl, Decimal.unsigned?, htake, hdrop, List.isEmpty_iff.mp hmore, List.append_nil,
      hsome]
    rfl
  | false =>
    obtain ⟨htake, hdrop⟩ := takeWhile_and_dropWhile_append ('.' :: n.places) hwhole (by simp)
    rw [if_neg Bool.false_ne_true]
    simp only [Decimal.unsigned?, htake, hdrop, hsome, hmore, List.all_eq_true.mpr hplaces]
    rfl

/-- **A numeral is read as the decimal of its digits.** -/
theorem ofText?_text (n : Numeral) : Decimal.ofText? n.text = some n.decimal := by
  have hread := n.unsigned?_unsigned n.isNegative
  rw [text]
  cases hsign : n.isNegative with
  | true =>
    rw [hsign] at hread
    rw [if_pos rfl, decimal, hsign]
    exact hread
  | false =>
    rw [hsign] at hread
    rw [if_neg Bool.false_ne_true, decimal, hsign]
    exact Decimal.ofText?_of_unsigned? hread

/-- There are only digits before the point. -/
theorem point_notMem_whole (n : Numeral) : '.' ∉ n.whole := by
  intro hmem
  have hdigit := n.isDigit_of_mem '.' (List.mem_append_left _ hmem)
  exact absurd hdigit (by decide)

/-! ## Digits of a whole number -/

/-- Zero has no digit more than it is padded to. -/
theorem length_padded_zero (places : Nat) :
    (Decimal.padded (places + 1) (Nat.toDigits 10 0)).length = places + 1 := by
  have hzero : (Nat.toDigits 10 0).length = 1 := rfl
  rw [Decimal.padded, List.length_append, List.length_replicate, hzero]
  omega

/-- The digits of a whole number, with zeros before them if it has none to
leave before the places. -/
def digits (n places : Nat) : List Char := Decimal.padded (places + 1) (Nat.toDigits 10 n)

section Digits

variable (n places : Nat)

/-- There is a digit more than there are places, so one stands before the
point. -/
theorem lt_length_digits : places < (digits n places).length := Decimal.length_le_padded _ _

theorem isDigit_of_mem_digits : ∀ c ∈ (digits n places).take ((digits n places).length - places)
    ++ (digits n places).drop ((digits n places).length - places), c.isDigit = true := by
  rw [List.take_append_drop]
  exact fun c => Decimal.isDigit_of_mem_padded

/-- Some digit stands before the point. -/
theorem take_digits_ne_nil :
    (digits n places).take ((digits n places).length - places) ≠ [] := by
  have hlength := lt_length_digits n places
  apply List.ne_nil_of_length_pos
  rw [List.length_take]
  omega

/-- Only a number that is padded has a zero before its places. -/
theorem take_digits_of_head
    (h : ((digits n places).take ((digits n places).length - places)).head? = some '0') :
    (digits n places).take ((digits n places).length - places) = ['0'] := by
  have hlength := lt_length_digits n places
  rw [List.head?_take, if_neg (by omega)] at h
  have hpadded : (digits n places).length = places + 1 := by
    obtain rfl | hn := Nat.eq_zero_or_pos n
    · exact length_padded_zero places
    · exact Decimal.length_padded_of_head hn.ne' h
  rw [hpadded, Nat.add_sub_cancel_left, List.take_one, h]
  rfl

end Digits

/-- The digits of a whole number as a numeral whose last ones are places. -/
def ofPlaces (negative : Bool) (n places : Nat) : Numeral where
  isNegative := negative
  whole := (digits n places).take ((digits n places).length - places)
  places := (digits n places).drop ((digits n places).length - places)
  isDigit_of_mem := isDigit_of_mem_digits n places
  whole_ne_nil := take_digits_ne_nil n places
  whole_eq_of_head := take_digits_of_head n places

variable (negative : Bool) (n places : Nat)

/-- A numeral of so many places has that many, zeros included. -/
theorem length_places_ofPlaces : (ofPlaces negative n places).places.length = places := by
  have hlength := lt_length_digits n places
  rw [ofPlaces, List.length_drop]
  omega

/-- The units of the last place are the significand of what it says. -/
theorem decimal_ofPlaces : (ofPlaces negative n places).decimal = ⟨negative, n, -(places : Int)⟩ := by
  have hdigits : (ofPlaces negative n places).whole ++ (ofPlaces negative n places).places
      = Decimal.padded (places + 1) (Nat.toDigits 10 n) := List.take_append_drop _ _
  rw [decimal, hdigits, Decimal.ofDigitChars_padded, length_places_ofPlaces]
  rfl

/-- A decimal is written with the places that its unit asks for. -/
theorem text_ofPlaces :
    (ofPlaces negative n places).text = Decimal.text ⟨negative, n, -(places : Int)⟩ := by
  rw [Decimal.text_eq, text]
  congr 1
  obtain rfl | hplaces := Nat.eq_zero_or_pos places
  · have hpadded : digits n 0 = Nat.toDigits 10 n := by
      rw [digits, Decimal.padded, Nat.sub_eq_zero_of_le Nat.length_toDigits_pos,
        List.replicate_zero, List.nil_append]
    have hpositional : Decimal.positional ⟨negative, n, -((0 : Nat) : Int)⟩ = Nat.toDigits 10 n := by
      rw [Decimal.positional, if_pos (by simp)]
      exact congrArg _ (Nat.mul_one n)
    rw [hpositional, unsigned, ofPlaces]
    simp [hpadded]
  · have hsome : (ofPlaces negative n places).places.isEmpty = false := by
      rw [List.isEmpty_eq_false_iff]
      apply List.ne_nil_of_length_pos
      rw [length_places_ofPlaces]
      exact hplaces
    have hexponent : ¬0 ≤ -(places : Int) := by omega
    rw [unsigned, hsome, if_neg Bool.false_ne_true, Decimal.positional, if_neg hexponent,
      Int.neg_neg, Int.toNat_natCast]
    rfl

end Numeral

/-! ## Zeros that end the places -/

/-- The zeros that end a list of digits stand behind the rest. -/
theorem exists_replicate_zero (cs : List Char) :
    ∃ zeros, cs = cs.rdropWhile (· == '0') ++ List.replicate zeros '0' := by
  have hzeros : ∀ c ∈ cs.rtakeWhile (· == '0'), c = '0' := fun c hc =>
    beq_iff_eq.mp (List.mem_rtakeWhile_imp (p := (· == '0')) hc)
  refine ⟨(cs.rtakeWhile (· == '0')).length, ?_⟩
  rw [← List.eq_replicate_of_mem hzeros]
  exact (List.rdropWhile_append_rtakeWhile ..).symm

/-- Zeros at the end are the first to be passed from there. -/
theorem dropWhile_reverse_append_replicate (cs : List Char) (zeros : Nat) :
    (cs ++ List.replicate zeros '0').reverse.dropWhile (· == '0')
      = cs.reverse.dropWhile (· == '0') := by
  rw [List.reverse_append, List.reverse_replicate, List.dropWhile_append_of_pos]
  exact fun c hc => beq_iff_eq.mpr (List.eq_of_mem_replicate hc)

/-- What is left without such zeros does not end in one. -/
theorem getLast?_rdropWhile_ne (cs : List Char) :
    (cs.rdropWhile (· == '0')).getLast? ≠ some '0' := by
  intro hlast
  have hne : cs.rdropWhile (· == '0') ≠ [] := by
    intro hnil
    rw [hnil] at hlast
    cases hlast
  have hnot := List.rdropWhile_last_not (· == '0') cs hne
  rw [List.getLast?_eq_getLast_of_ne_nil hne, Option.some.injEq] at hlast
  exact hnot (beq_iff_eq.mpr hlast)

namespace Numeral

/-- The numeral without the zeros that end its places. -/
def plain (n : Numeral) : PlainNumeral where
  isNegative := n.isNegative
  whole := n.whole
  places := n.places.rdropWhile (· == '0')
  isDigit_of_mem c hc := by
    refine n.isDigit_of_mem c ?_
    rw [List.mem_append] at hc ⊢
    exact hc.imp_right fun h => (List.rdropWhile_prefix _ _).mem h
  whole_ne_nil := n.whole_ne_nil
  whole_eq_of_head := n.whole_eq_of_head
  getLast?_places := getLast?_rdropWhile_ne n.places

end Numeral

/-- A plain numeral among the others. -/
def PlainNumeral.toNumeral (p : PlainNumeral) : Numeral where
  isNegative := p.isNegative
  whole := p.whole
  places := p.places
  isDigit_of_mem := p.isDigit_of_mem
  whole_ne_nil := p.whole_ne_nil
  whole_eq_of_head := p.whole_eq_of_head

theorem PlainNumeral.text_toNumeral (p : PlainNumeral) : p.toNumeral.text = p.text :=
  (List.append_assoc _ _ _).symm

/-- Zeros that end the places add nothing. -/
theorem Numeral.toRat_decimal_plain (n : Numeral) :
    n.plain.toNumeral.decimal.toRat = n.decimal.toRat := by
  obtain ⟨zeros, hzeros⟩ := exists_replicate_zero n.places
  have hdigits : n.decimal.digits = n.plain.toNumeral.decimal.digits * 10 ^ zeros := by
    change Nat.ofDigitChars 10 (n.whole ++ n.places) 0
      = Nat.ofDigitChars 10 (n.whole ++ n.places.rdropWhile (· == '0')) 0 * 10 ^ zeros
    conv_lhs => rw [hzeros]
    rw [← List.append_assoc, Nat.ofDigitChars_append, Nat.ofDigitChars_replicate_zero, Nat.mul_comm]
  have hlength : n.places.length = n.plain.places.length + zeros := by
    conv_lhs => rw [hzeros, List.length_append, List.length_replicate]
    rfl
  have hmagnitude : n.plain.toNumeral.decimal.magnitude = n.decimal.magnitude := by
    have hshift : (-(n.plain.places.length : Int) - -(n.places.length : Int)).toNat = zeros := by
      omega
    calc n.plain.toNumeral.decimal.magnitude
        = (n.plain.toNumeral.decimal.digits : Rat) * 10 ^ (-(n.plain.places.length : Int)) := rfl
      _ = n.decimal.digits * 10 ^ (-(n.places.length : Int)) := by
        rw [Decimal.natCast_mul_zpow _ (by omega : -(n.places.length : Int) ≤ _), hshift, hdigits]
  rw [Decimal.toRat, Decimal.toRat, hmagnitude]
  rfl

namespace Double

/-- A text without a point is left as it is. -/
theorem trimFraction_of_notMem {cs : List Char} (h : '.' ∉ cs) : trimFraction cs = cs := by
  rw [trimFraction, if_neg]
  rwa [List.contains_iff_mem]

/-- Behind its point a text loses the zeros at its end, and the point if
nothing is left behind it. -/
theorem trimFraction_append {before places : List Char} (hbefore : '.' ∉ before)
    (hplaces : '.' ∉ places) :
    trimFraction (before ++ '.' :: places) = before ++
      (if (places.rdropWhile (· == '0')).isEmpty then []
        else '.' :: places.rdropWhile (· == '0')) := by
  have hpoint : '.' ∈ before ++ '.' :: places := List.mem_append_right _ List.mem_cons_self
  obtain ⟨zeros, hzeros⟩ := exists_replicate_zero places
  have hlast := getLast?_rdropWhile_ne places
  generalize places.rdropWhile (· == '0') = kept at *
  subst hzeros
  rw [trimFraction, if_pos (List.contains_iff_mem.mpr hpoint), ← List.cons_append,
    ← List.append_assoc, dropWhile_reverse_append_replicate, List.reverse_append, List.reverse_cons,
    List.append_assoc, List.singleton_append]
  obtain rfl | ⟨init, c, rfl⟩ := List.eq_nil_or_concat kept
  · have hend : before.reverse.dropWhile (· == '.') = before.reverse := by
      rw [List.dropWhile_eq_self_iff]
      intro hpos hfirst
      refine hbefore ?_
      rw [← beq_iff_eq.mp hfirst, ← List.mem_reverse]
      exact List.getElem_mem hpos
    rw [List.reverse_nil, List.nil_append, List.dropWhile_cons_of_neg (by decide),
      List.dropWhile_cons_of_pos (by decide), hend, List.reverse_reverse]
    exact (List.append_nil _).symm
  · have hzero : ¬(c == '0') = true := by
      intro hc
      rw [List.concat_eq_append, List.getLast?_concat, beq_iff_eq.mp hc] at hlast
      exact hlast rfl
    have hother : ¬(c == '.') = true := by
      intro hc
      refine hplaces (List.mem_append_left _ ?_)
      rw [List.concat_eq_append, beq_iff_eq.mp hc]
      exact List.mem_append_right _ List.mem_cons_self
    rw [List.concat_eq_append, List.reverse_append, List.reverse_singleton, List.singleton_append,
      List.cons_append, List.dropWhile_cons_of_neg (p := (· == '0')) hzero,
      List.dropWhile_cons_of_neg (p := (· == '.')) hother]
    simp

/-- **Trimming takes the zeros that end the places**, and nothing else. -/
theorem trimFraction_text (n : Numeral) : trimFraction n.text = n.plain.text := by
  have hplaces : '.' ∉ n.places := by
    intro hmem
    exact absurd (n.isDigit_of_mem '.' (List.mem_append_right _ hmem)) (by decide)
  have hbefore : '.' ∉ (if n.isNegative then ['-'] else []) ++ n.whole := by
    rw [List.mem_append, not_or]
    refine ⟨?_, n.point_notMem_whole⟩
    cases n.isNegative <;> decide
  rw [Numeral.text, Numeral.unsigned, ← List.append_assoc]
  cases hmore : n.places.isEmpty with
  | true =>
    have hnone : n.plain.places.isEmpty = true := by
      change (n.places.rdropWhile (· == '0')).isEmpty = true
      rw [List.isEmpty_iff.mp hmore]
      rfl
    rw [if_pos rfl, List.append_nil, trimFraction_of_notMem hbefore, PlainNumeral.text, hnone,
      if_pos rfl, List.append_nil]
    rfl
  | false =>
    rw [if_neg Bool.false_ne_true, trimFraction_append hbefore hplaces]
    rfl

end Double

/-! ## Numbers -/

namespace Decimal

/-- A text is the numeral of a value. -/
def ReadsAs (cs : List Char) (q : Rat) : Prop := ∃ d, ofText? cs = some d ∧ d.toRat = q

/-- A text is read as one number. -/
theorem ReadsAs.unique {cs : List Char} {q r : Rat} (hq : ReadsAs cs q) (hr : ReadsAs cs r) : q = r := by
  obtain ⟨d, hd, rfl⟩ := hq
  obtain ⟨d', hd', rfl⟩ := hr
  rw [Option.some.inj (hd.symm.trans hd')]

end Decimal

/-- A numeral is read as what it says. -/
theorem Numeral.readsAs_text (n : Numeral) : Decimal.ReadsAs n.text n.decimal.toRat :=
  ⟨n.decimal, n.ofText?_text, rfl⟩

/-- A numeral is a number rounded to places. -/
structure Double.IsFixed (x : Double) (places : Nat) (n : Numeral) : Prop where
  length_places : n.places.length = places
  /-- It says the nearest multiple of the unit of its last place, and stands
  behind a sign only if that is less than zero. -/
  nearest : ∃ units : Int, Decimal.ReadsAs n.text (units * placeUnit places) ∧
    IsNearestMultiple (placeUnit places) units x.toRat ∧ (n.isNegative = true ↔ units < 0)

/-- A plain numeral is a number rounded to ten places, without the zeros that
end them. -/
structure Double.IsTrimmed (x : Double) (p : PlainNumeral) : Prop where
  /-- The zeros alone are taken away, and only of the places. -/
  trimmed : ∃ n : Numeral, x.IsFixed 10 n ∧ n.text = (fixed 10 x).toList ∧
    n.isNegative = p.isNegative ∧ n.whole = p.whole ∧
    ∃ zeros, n.places = p.places ++ List.replicate zeros '0'
  /-- It says what all ten places say. -/
  reads : ∃ q, Decimal.ReadsAs p.text q ∧ Decimal.ReadsAs (fixed 10 x).toList q
  /-- Zero has no sign. -/
  ne_negative_zero : p.text ≠ ['-', '0']

namespace Double

/-- The numeral of a number rounded to places. -/
def numeral (places : Nat) (x : Double) : Numeral :=
  .ofPlaces (x.rounded places).negative (x.rounded places).digits places

/-- A number is written as the decimal that it was rounded to. -/
theorem decimal_numeral (places : Nat) (x : Double) :
    (x.numeral places).decimal = x.rounded places := Numeral.decimal_ofPlaces _ _ _

/-- A sign is left only to what is less than zero. -/
theorem negative_rounded_iff (places : Nat) (x : Double) :
    (x.rounded places).negative = true ↔ (x.rounded places).units < 0 := by
  rw [Decimal.units, rounded]
  cases x.negative
  · simp
  · simp
    omega

/-- The numeral of a number is the nearest of its places, with a sign only below
zero. -/
theorem isFixed_numeral (places : Nat) (x : Double) : x.IsFixed places (x.numeral places) where
  length_places := Numeral.length_places_ofPlaces _ _ _
  nearest := by
    refine ⟨_, ?_, isNearestMultiple_rounded places x, negative_rounded_iff places x⟩
    rw [← toRat_rounded, ← decimal_numeral]
    exact (x.numeral places).readsAs_text

variable {x : Double} (hx : x.isFinite = true)
include hx

/-- **A finite number is written as the numeral of its rounding.** -/
theorem toList_fixed (places : Nat) : (fixed places x).toList = (x.numeral places).text := by
  rw [fixed, if_pos hx, String.toList_ofList, numeral, Numeral.text_ofPlaces]
  rfl

theorem toList_trimmed : (trimmed x).toList = (x.numeral 10).plain.text := by
  rw [trimmed, String.toList_ofList, toList_fixed hx, trimFraction_text]

/-- A number with fixed places is read as what it was rounded to. -/
theorem readsAs_fixed (places : Nat) :
    Decimal.ReadsAs (fixed places x).toList (x.rounded places).toRat := by
  rw [toList_fixed hx, ← decimal_numeral]
  exact (x.numeral places).readsAs_text

omit hx in
/-- A trimmed number is read as what it was rounded to, since only zeros are
cut off. -/
theorem readsAs_plain (x : Double) :
    Decimal.ReadsAs (x.numeral 10).plain.text (x.rounded 10).toRat := by
  rw [← PlainNumeral.text_toNumeral, ← decimal_numeral, ← Numeral.toRat_decimal_plain]
  exact Numeral.readsAs_text _

/-- **The trimmed numeral is the one of ten places**, less the zeros that end
them. -/
theorem isTrimmed_plain : x.IsTrimmed (x.numeral 10).plain where
  trimmed := ⟨_, isFixed_numeral 10 x, (toList_fixed hx 10).symm, rfl, rfl,
    exists_replicate_zero _⟩
  reads := ⟨_, readsAs_plain x, readsAs_fixed hx 10⟩
  ne_negative_zero := by
    intro htext
    have hreads := readsAs_plain x
    rw [htext] at hreads
    have hzero : (x.rounded 10).toRat = 0 :=
      hreads.unique ⟨⟨true, 0, 0⟩, rfl, by simp [Decimal.toRat, Decimal.magnitude]⟩
    have hunits : ¬(x.rounded 10).units < 0 := by
      rw [toRat_rounded, mul_eq_zero] at hzero
      have hnone := hzero.resolve_right (placeUnit_pos 10).ne'
      rw [Int.cast_eq_zero] at hnone
      omega
    -- a numeral without a sign does not begin with one
    have hsign : (x.numeral 10).plain.isNegative = false :=
      Bool.eq_false_iff.mpr fun hnegative => hunits ((negative_rounded_iff 10 x).mp hnegative)
    obtain ⟨c, rest, hwhole⟩ := List.exists_cons_of_ne_nil (x.numeral 10).plain.whole_ne_nil
    rw [PlainNumeral.text, hsign, hwhole] at htext
    have hfirst : c = '-' := (List.cons.inj htext).1
    have hdigit := (x.numeral 10).plain.isDigit_of_mem c (by rw [hwhole]; simp)
    rw [hfirst] at hdigit
    exact absurd hdigit (by decide)

end Double

end SearchQuery
