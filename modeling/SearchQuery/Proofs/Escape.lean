import SearchQuery.Escape

/-!
# Laws of escaping

What is known of a text once it is escaped: how it splits, what characters it
has, and that open white space in it is white space of the value. A law is stated of
`escapeChars` for any class of characters that has the backslash in it, and
`text` and `tag` are two such classes.
-/

namespace SearchQuery.Escape

theorem toList_text (s : String) : (text s).toList = escapeChars isSpecial s.toList :=
  String.toList_ofList

theorem toList_tag (s : String) : (tag s).toList = escapeChars isTagSpecial s.toList :=
  String.toList_ofList

theorem isSpecial_backslash : isSpecial '\\' = true := by decide

section Classes

variable {p : Char → Bool}

/-- A character of the class takes a backslash. -/
theorem escapeChars_cons_of_pos {c : Char} (h : p c = true) (cs : List Char) :
    escapeChars p (c :: cs) = '\\' :: c :: escapeChars p cs := by
  rw [escapeChars, if_pos h]

/-- Any other character stands as it is. -/
theorem escapeChars_cons_of_neg {c : Char} (h : p c = false) (cs : List Char) :
    escapeChars p (c :: cs) = c :: escapeChars p cs := by
  rw [escapeChars, if_neg (by rw [h]; exact Bool.false_ne_true)]

/-- Escaping adds backslashes and nothing else. -/
theorem mem_escapeChars {cs : List Char} {c : Char} (h : c ∈ escapeChars p cs) :
    c = '\\' ∨ c ∈ cs := by
  induction cs with
  | nil => cases h
  | cons d cs ih =>
    rw [escapeChars] at h
    split at h <;> grind

/-- A text without backslashes is what is left of its escaped form without
them. -/
theorem filter_escapeChars {cs : List Char} (h : '\\' ∉ cs) :
    (escapeChars p cs).filter (· != '\\') = cs := by
  induction cs with
  | nil => rfl
  | cons c cs ih =>
    obtain ⟨hc, hcs⟩ := List.ne_and_not_mem_of_not_mem_cons h
    rw [escapeChars]
    split
    · rw [List.filter_cons_of_neg (by decide), List.filter_cons_of_pos (by simpa using hc.symm),
        ih hcs]
    · rw [List.filter_cons_of_pos (by simpa using hc.symm), ih hcs]

end Classes

/-! ## Open white space -/

/-- No special character is white space. -/
theorem isSpace_of_isSpecial {c : Char} (h : isSpecial c = true) : Text.isSpace c = false := by
  have hall : specialChars.all (fun d => !Text.isSpace d) = true := by decide
  have hspace := List.all_eq_true.mp hall c (List.contains_iff_mem.mp h)
  simpa using hspace

/-- White space is not escaped. -/
theorem isSpecial_of_isSpace {c : Char} (h : Text.isSpace c = true) : isSpecial c = false := by
  cases hspecial : isSpecial c with
  | false => rfl
  | true =>
    rw [isSpace_of_isSpecial hspecial] at h
    cases h

theorem hasOpenSpace_pair (c : Char) (cs : List Char) :
    hasOpenSpace ('\\' :: c :: cs) = hasOpenSpace cs := by
  rw [hasOpenSpace]

theorem hasOpenSpace_cons {c : Char} (h : c ≠ '\\') (cs : List Char) :
    hasOpenSpace (c :: cs) = (Text.isSpace c || hasOpenSpace cs) := by
  rw [hasOpenSpace]
  · exact fun hc _ => h hc
  · exact fun _ _ hc _ => h hc

/-- The open white space of an escaped text is the white space of the value
that is outside the class. -/
theorem hasOpenSpace_escapeChars {p : Char → Bool} (hp : p '\\' = true) (cs : List Char) :
    hasOpenSpace (escapeChars p cs) = cs.any fun c => !p c && Text.isSpace c := by
  induction cs with
  | nil => rfl
  | cons c cs ih =>
    cases hc : p c with
    | true =>
      rw [escapeChars_cons_of_pos hc, hasOpenSpace_pair, ih, List.any_cons, hc]
      rfl
    | false =>
      have hne : c ≠ '\\' := by
        rintro rfl
        rw [hp] at hc
        cases hc
      rw [escapeChars_cons_of_neg hc, hasOpenSpace_cons hne, ih, List.any_cons, hc]
      rfl

/-- A text without open white space once it is escaped has no white space
outside the class. -/
theorem isSpace_of_hasOpenSpace {p : Char → Bool} (hp : p '\\' = true) {cs : List Char}
    (h : hasOpenSpace (escapeChars p cs) = false) {c : Char} (hmem : c ∈ cs)
    (hc : p c = false) : Text.isSpace c = false := by
  rw [hasOpenSpace_escapeChars hp, List.any_eq_false] at h
  simpa only [hc, Bool.not_false, Bool.true_and, Bool.not_eq_true] using h c hmem

end SearchQuery.Escape
