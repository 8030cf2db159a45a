import SearchQuery.Proofs.Decimal.Minimal
import SearchQuery.Proofs.Decimal.Numeral

/-!
# Plain numerals

Positional notation, with a digit for every place and none to spare
(`PlainNumeral`). A decimal whose last digit is not zero is written so
(`Decimal.exists_plainNumeral`), with places only where its unit is a fraction.
-/

namespace SearchQuery

/-- A numeral without an exponent. A zero leads the whole part only as its one
digit, and none ends the places. -/
structure PlainNumeral where
  isNegative : Bool
  whole : List Char
  places : List Char
  isDigit_of_mem : ∀ c ∈ whole ++ places, c.isDigit = true
  whole_ne_nil : whole ≠ []
  whole_eq_of_head : whole.head? = some '0' → whole = ['0']
  getLast?_places : places.getLast? ≠ some '0'

/-- The numeral as it is written: a point stands only before places. -/
def PlainNumeral.text (p : PlainNumeral) : List Char :=
  (if p.isNegative then ['-'] else []) ++ p.whole
    ++ (if p.places.isEmpty then [] else '.' :: p.places)

namespace Decimal

/-! ## Whole numbers -/

/-- A whole number that begins with zero is zero. -/
theorem eq_zero_of_head_toDigits {n : Nat} (h : (Nat.toDigits 10 n).head? = some '0') : n = 0 := by
  induction n using Nat.strong_induction_on with
  | _ n ih =>
    obtain hless | hmore := Nat.lt_or_ge n 10
    · rw [Nat.toDigits_of_lt_base hless, List.head?_cons, Option.some.injEq] at h
      exact (digitChar_eq_zero hless).mp h
    · rw [Nat.toDigits_of_base_le (by decide) hmore,
        List.head?_append_of_ne_nil _ Nat.toDigits_ne_nil] at h
      have hzero := ih (n / 10) (by omega) h
      omega

theorem getLast?_toDigits (n : Nat) :
    (Nat.toDigits 10 n).getLast? = some (n % 10).digitChar := by
  obtain ⟨rest, hrest⟩ := exists_reverse_toDigits n
  rw [← List.head?_reverse, hrest, List.head?_cons]

/-! ## Decimals -/

/-- A whole number is a plain numeral. -/
def plainWhole (negative : Bool) (n : Nat) : PlainNumeral where
  isNegative := negative
  whole := Nat.toDigits 10 n
  places := []
  isDigit_of_mem c hc := by
    rw [List.append_nil] at hc
    exact Nat.isDigit_of_mem_toDigits (by decide) (by decide) hc
  whole_ne_nil := Nat.toDigits_ne_nil
  whole_eq_of_head h := by
    rw [eq_zero_of_head_toDigits h]
    rfl
  getLast?_places := by simp

/-- A padded numeral that begins with zero has no digit more than it was
padded to. -/
theorem length_padded_of_head {length n : Nat} (hn : n ≠ 0)
    (h : (padded length (Nat.toDigits 10 n)).head? = some '0') :
    (padded length (Nat.toDigits 10 n)).length = length := by
  rw [padded, List.length_append, List.length_replicate]
  obtain hlong | hshort := Nat.le_or_le length (Nat.toDigits 10 n).length
  · rw [padded, Nat.sub_eq_zero_of_le hlong, List.replicate_zero, List.nil_append] at h
    exact absurd (eq_zero_of_head_toDigits h) hn
  · exact Nat.sub_add_cancel hshort

/-- A padded numeral ends as the number does. -/
theorem getLast?_padded (length n : Nat) :
    (padded length (Nat.toDigits 10 n)).getLast? = some (n % 10).digitChar := by
  rw [padded, List.getLast?_append, getLast?_toDigits]
  rfl

/-- A number with places is a plain numeral if its last digit is not zero. -/
def plainPlaces (negative : Bool) (n places : Nat) (hplaces : 0 < places) (hlast : n % 10 ≠ 0) :
    PlainNumeral :=
  let cs := padded (places + 1) (Nat.toDigits 10 n)
  have hlength : places + 1 ≤ cs.length := length_le_padded (places + 1) (Nat.toDigits 10 n)
  { isNegative := negative
    whole := cs.take (cs.length - places)
    places := cs.drop (cs.length - places)
    isDigit_of_mem := by
      rw [List.take_append_drop]
      exact fun c => isDigit_of_mem_padded
    whole_ne_nil := by
      apply List.ne_nil_of_length_pos
      rw [List.length_take]
      omega
    whole_eq_of_head := by
      intro h
      rw [List.head?_take, if_neg (by omega)] at h
      have hpadded : cs.length = places + 1 :=
        length_padded_of_head (by rintro rfl; exact hlast rfl) h
      rw [hpadded, Nat.add_sub_cancel_left, List.take_one, h]
      rfl
    getLast?_places := by
      rw [List.getLast?_drop, if_neg (by omega), getLast?_padded]
      exact fun h => hlast ((digitChar_eq_zero (Nat.mod_lt n (by decide))).mp (Option.some.inj h)) }

/-- The sign of a decimal stands before it. -/
theorem text_eq (d : Decimal) : d.text = (if d.negative then ['-'] else []) ++ d.positional := by
  rw [text]
  cases d.negative <;> rfl

theorem text_plainWhole (negative : Bool) (n : Nat) :
    (plainWhole negative n).text = (if negative then ['-'] else []) ++ Nat.toDigits 10 n :=
  List.append_nil _

theorem text_plainPlaces (negative : Bool) {n places : Nat} (hplaces : 0 < places)
    (hlast : n % 10 ≠ 0) :
    (plainPlaces negative n places hplaces hlast).text
      = (if negative then ['-'] else []) ++ withPlaces n places := by
  have hlength := length_le_padded (places + 1) (Nat.toDigits 10 n)
  have hsome : (plainPlaces negative n places hplaces hlast).places.isEmpty = false := by
    rw [List.isEmpty_eq_false_iff]
    apply List.ne_nil_of_length_pos
    rw [plainPlaces, List.length_drop]
    omega
  rw [PlainNumeral.text, hsome, if_neg Bool.false_ne_true, List.append_assoc]
  rfl

/-- **A decimal whose last digit is not zero is written plainly**, without
places if its unit is whole. -/
theorem exists_plainNumeral (d : Decimal) (hlast : d.digits % 10 ≠ 0) :
    ∃ p : PlainNumeral, p.text = d.text ∧ (0 ≤ d.exponent → p.places = []) := by
  rw [text_eq, positional]
  by_cases hexponent : 0 ≤ d.exponent
  · rw [if_pos hexponent]
    exact ⟨plainWhole d.negative (d.digits * 10 ^ d.exponent.toNat), text_plainWhole _ _,
      fun _ => rfl⟩
  · rw [if_neg hexponent]
    exact ⟨plainPlaces d.negative d.digits (-d.exponent).toNat (by omega) hlast,
      text_plainPlaces _ _ _, fun h => absurd h hexponent⟩

end Decimal

end SearchQuery
