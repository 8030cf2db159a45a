import SearchQuery.Decimal.Literal

/-!
# The characters of a number

Whatever rule a number is written by, its text consists of letters, digits,
points and signs. None of them delimits, escapes or marks anything in a
query string.
-/

namespace SearchQuery

/-- A character that the text of a number may have. -/
def isFigure (c : Char) : Bool := c.isAlphanum || c == '.' || c == '-' || c == '+'

/-- A digit is a figure. -/
theorem isFigure_of_isDigit {c : Char} (h : c.isDigit = true) : isFigure c = true := by
  simp only [isFigure, Char.isAlphanum, h, Bool.or_true, Bool.true_or]

/-- A character that no number has is not a character of a number. -/
theorem ne_of_isFigure {c d : Char} (hc : isFigure c = true) (hd : isFigure d = false) :
    c ≠ d := by
  rintro rfl
  rw [hc] at hd
  cases hd

/-- Whole numbers are written in figures. -/
theorem isFigure_of_mem_toDigits {n : Nat} {c : Char} (h : c ∈ Nat.toDigits 10 n) :
    isFigure c = true :=
  isFigure_of_isDigit (Nat.isDigit_of_mem_toDigits (by decide) (by decide) h)

namespace Decimal

/-- Zeros before figures are figures. -/
theorem isFigure_of_mem_padded {length : Nat} {cs : List Char} {c : Char}
    (hcs : ∀ d ∈ cs, isFigure d = true) (h : c ∈ padded length cs) : isFigure c = true := by
  rcases List.mem_append.mp h with hzero | hcs'
  · rw [List.eq_of_mem_replicate hzero]
    decide
  · exact hcs c hcs'

/-- A number with places is written in figures, its point among them. -/
theorem isFigure_of_mem_withPlaces {n places : Nat} {c : Char} (h : c ∈ withPlaces n places) :
    isFigure c = true := by
  have hpadded : ∀ d ∈ padded (places + 1) (Nat.toDigits 10 n), isFigure d = true :=
    fun d hd => isFigure_of_mem_padded (fun _ => isFigure_of_mem_toDigits) hd
  rcases List.mem_append.mp h with hleft | hright
  · exact hpadded c (List.mem_of_mem_take hleft)
  · rcases List.mem_cons.mp hright with rfl | hright
    · decide
    · exact hpadded c (List.mem_of_mem_drop hright)

/-- A decimal is written in figures, whatever its exponent is. -/
theorem isFigure_of_mem_positional {d : Decimal} {c : Char} (h : c ∈ d.positional) :
    isFigure c = true := by
  unfold positional at h
  split at h
  · exact isFigure_of_mem_toDigits h
  · exact isFigure_of_mem_withPlaces h

/-- A decimal is written in figures with its sign as well. -/
theorem isFigure_of_mem_text {d : Decimal} {c : Char} (h : c ∈ d.text) : isFigure c = true := by
  unfold text at h
  split at h
  · rcases List.mem_cons.mp h with rfl | h
    · decide
    · exact isFigure_of_mem_positional h
  · exact isFigure_of_mem_positional h

end Decimal

/-- The texts of numbers that are spelled out. -/
theorem isFigure_of_mem_word {word : String} (hword : word.toList.all isFigure = true) {c : Char}
    (h : c ∈ word.toList) : isFigure c = true :=
  List.all_eq_true.mp hword c h

/-- Whatever number is displayed, it is in figures, an infinity or no number
included. -/
theorem Binary.isFigure_of_mem_display {f : Format} {x : Binary f} {c : Char}
    (h : c ∈ x.display.toList) : isFigure c = true := by
  unfold display at h
  split at h
  · exact isFigure_of_mem_word (by decide) h
  · split at h
    · split at h
      · exact isFigure_of_mem_word (by decide) h
      · exact isFigure_of_mem_word (by decide) h
    · rw [String.toList_ofList] at h
      exact Decimal.isFigure_of_mem_text h

namespace Double

/-- Literals are written in figures, those of the infinities among them. -/
theorem isFigure_of_mem_literal {x : Double} {c : Char} (h : c ∈ (literal x).toList) :
    isFigure c = true := by
  unfold literal at h
  split at h
  · split at h
    · exact isFigure_of_mem_word (by decide) h
    · exact isFigure_of_mem_word (by decide) h
  · split at h
    · exact isFigure_of_mem_word (by decide) h
    · exact Binary.isFigure_of_mem_display h

/-- Numbers with a fixed count of places are written in figures. -/
theorem isFigure_of_mem_fixed {places : Nat} {x : Double} {c : Char}
    (h : c ∈ (fixed places x).toList) : isFigure c = true := by
  unfold fixed at h
  split at h
  · rw [String.toList_ofList] at h
    exact Decimal.isFigure_of_mem_text h
  · exact Binary.isFigure_of_mem_display h

end Double

end SearchQuery
