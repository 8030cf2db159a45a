import Mathlib.Algebra.Order.Field.Power
import Mathlib.Tactic.NormNum
import SearchQuery.Decimal.Basic

/-!
# Numerals

A numeral in positional notation says one decimal: its digits, with as many
places as stand behind the point (`Decimal.ofText?`). What a decimal is
written as says a decimal of the same sign and magnitude, if not always of
the same unit (`Decimal.exists_ofText?_text`).
-/

namespace SearchQuery

/-- Elements of a kind end where one of another kind stands. -/
theorem takeWhile_and_dropWhile_append {α : Type} {p : α → Bool} {before : List α}
    (rest : List α) (hbefore : ∀ a ∈ before, p a = true) (hrest : ∀ a ∈ rest.head?, p a = false) :
    (before ++ rest).takeWhile p = before ∧ (before ++ rest).dropWhile p = rest := by
  have hnext : rest.takeWhile p = [] ∧ rest.dropWhile p = rest := by
    cases rest with
    | nil => exact ⟨rfl, rfl⟩
    | cons a rest =>
      have ha := hrest a rfl
      exact ⟨List.takeWhile_cons_of_neg (by rw [ha]; exact Bool.false_ne_true),
        List.dropWhile_cons_of_neg (by rw [ha]; exact Bool.false_ne_true)⟩
  rw [List.takeWhile_append_of_pos hbefore, List.dropWhile_append_of_pos hbefore, hnext.1,
    hnext.2, List.append_nil]
  exact ⟨rfl, rfl⟩

namespace Decimal

/-- The decimal that a numeral without its sign says: digits, and behind a
point more of them. -/
def unsigned? (negative : Bool) (cs : List Char) : Option Decimal :=
  let whole := cs.takeWhile Char.isDigit
  if whole.isEmpty then none
  else
    match cs.dropWhile Char.isDigit with
    | [] => some ⟨negative, Nat.ofDigitChars 10 whole 0, 0⟩
    | '.' :: places =>
      if places.isEmpty || !places.all Char.isDigit then none
      else some ⟨negative, Nat.ofDigitChars 10 (whole ++ places) 0, -(places.length : Int)⟩
    | _ => none

/-- The decimal that a numeral says. -/
def ofText? : List Char → Option Decimal
  | '-' :: cs => unsigned? true cs
  | cs => unsigned? false cs

/-! ## Digits -/

theorem isDigit_of_mem_padded {length n : Nat} {c : Char}
    (h : c ∈ padded length (Nat.toDigits 10 n)) : c.isDigit = true := by
  rcases List.mem_append.mp h with hzero | hdigits
  · rw [List.eq_of_mem_replicate hzero]
    rfl
  · exact Nat.isDigit_of_mem_toDigits (by decide) (by decide) hdigits

/-- Leading zeros add nothing. -/
theorem ofDigitChars_padded (length n : Nat) :
    Nat.ofDigitChars 10 (padded length (Nat.toDigits 10 n)) 0 = n := by
  rw [padded, Nat.ofDigitChars_append, Nat.ofDigitChars_replicate_zero, Nat.mul_zero,
    Nat.ofDigitChars_ten_toDigits]

theorem length_le_padded (length : Nat) (cs : List Char) : length ≤ (padded length cs).length := by
  rw [padded, List.length_append, List.length_replicate]
  omega

/-! ## Reading back -/

/-- A whole number is read as it was written. -/
theorem unsigned?_toDigits (negative : Bool) (n : Nat) :
    unsigned? negative (Nat.toDigits 10 n) = some ⟨negative, n, 0⟩ := by
  have hdigits : ∀ c ∈ Nat.toDigits 10 n, c.isDigit = true := fun c hc =>
    Nat.isDigit_of_mem_toDigits (by decide) (by decide) hc
  obtain ⟨htake, hdrop⟩ := takeWhile_and_dropWhile_append [] hdigits (by simp)
  rw [List.append_nil] at htake hdrop
  have hsome : (Nat.toDigits 10 n).isEmpty = false :=
    List.isEmpty_eq_false_iff.mpr (List.ne_nil_of_length_pos Nat.length_toDigits_pos)
  simp only [unsigned?, htake, hdrop, hsome, Nat.ofDigitChars_ten_toDigits]
  rfl

/-- A number with places is read with as many. -/
theorem unsigned?_withPlaces (negative : Bool) (n : Nat) {places : Nat} (hplaces : 0 < places) :
    unsigned? negative (withPlaces n places) = some ⟨negative, n, -(places : Int)⟩ := by
  have hlength := length_le_padded (places + 1) (Nat.toDigits 10 n)
  have hvalue := ofDigitChars_padded (places + 1) n
  have hdigits : ∀ c ∈ padded (places + 1) (Nat.toDigits 10 n), c.isDigit = true :=
    fun c => isDigit_of_mem_padded
  rw [withPlaces]
  generalize padded (places + 1) (Nat.toDigits 10 n) = cs at hlength hvalue hdigits ⊢
  have hwhole : ∀ c ∈ cs.take (cs.length - places), c.isDigit = true :=
    fun c hc => hdigits c (List.mem_of_mem_take hc)
  have hfraction : ∀ c ∈ cs.drop (cs.length - places), c.isDigit = true :=
    fun c hc => hdigits c (List.mem_of_mem_drop hc)
  have hcount : (cs.drop (cs.length - places)).length = places := by
    rw [List.length_drop]
    omega
  obtain ⟨htake, hdrop⟩ := takeWhile_and_dropWhile_append
    ('.' :: cs.drop (cs.length - places)) hwhole (by simp)
  have hsome : (cs.take (cs.length - places)).isEmpty = false := by
    rw [List.isEmpty_eq_false_iff]
    apply List.ne_nil_of_length_pos
    rw [List.length_take]
    omega
  have hmore : (cs.drop (cs.length - places)).isEmpty = false := by
    rw [List.isEmpty_eq_false_iff]
    apply List.ne_nil_of_length_pos
    omega
  simp only [unsigned?, htake, hdrop, hsome, hmore, List.all_eq_true.mpr hfraction, hcount,
    List.take_append_drop, hvalue]
  rfl

/-- Positional notation keeps the magnitude. -/
theorem exists_unsigned?_positional (d : Decimal) :
    ∃ r, unsigned? d.negative d.positional = some r ∧ r.negative = d.negative ∧
      r.magnitude = d.magnitude := by
  rw [positional]
  split
  · next hexponent =>
    refine ⟨_, unsigned?_toDigits _ _, rfl, ?_⟩
    have hpower : (10 : Rat) ^ d.exponent = 10 ^ d.exponent.toNat := by
      rw [← zpow_natCast, Int.toNat_of_nonneg hexponent]
    calc ((d.digits * 10 ^ d.exponent.toNat : Nat) : Rat) * 10 ^ (0 : Int)
        = d.digits * 10 ^ d.exponent.toNat := by
          rw [zpow_zero, mul_one, Nat.cast_mul, Nat.cast_pow, Nat.cast_ofNat]
      _ = d.digits * 10 ^ d.exponent := by rw [hpower]
  · next hexponent =>
    refine ⟨_, unsigned?_withPlaces _ _ (by omega), rfl, ?_⟩
    rw [magnitude, magnitude]
    congr 2
    simp only
    omega

/-- What is read without its sign has no sign. -/
theorem ofText?_of_unsigned? {cs : List Char} {d : Decimal} (h : unsigned? false cs = some d) :
    ofText? cs = some d := by
  unfold ofText?
  split
  · cases h
  · exact h

/-- **A decimal is read as it was written**, up to the unit it is counted in. -/
theorem exists_ofText?_text (d : Decimal) :
    ∃ r, ofText? d.text = some r ∧ r.negative = d.negative ∧ r.magnitude = d.magnitude := by
  obtain ⟨r, hr, hnegative, hmagnitude⟩ := d.exists_unsigned?_positional
  refine ⟨r, ?_, hnegative, hmagnitude⟩
  rw [text]
  cases hsign : d.negative with
  | true =>
    rw [hsign] at hr
    exact hr
  | false =>
    rw [hsign] at hr
    exact ofText?_of_unsigned? hr

end Decimal

end SearchQuery
