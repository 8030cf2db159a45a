import SearchQuery.Proofs.Syntax.Alternatives

/-!
# Undoing escapes

Escaping loses nothing and adds nothing that it need not. To undo it, drop
each backslash that escapes and keep the character after it (`unescape`).
An escaped text is a row of pieces: a character outside the class, or a
backslash and one character of the class (`IsEscaped`). A path is undone in
another way, since its names may have backslashes of their own that escape
nothing: drop the character before each `$` and each `.` (`dropBefore`).

## What is proved

- `escapesExactly`: whatever class is escaped, as long as the backslash is
  in it, escaping is a bijection between all texts and the rows of pieces,
  and `unescape` is its inverse.
- `hasOpenSpace_text_iff`, `hasOpenSpace_tag_iff`: the white space left open
  is what the value has of it. A tag closes the plain space, and no other
  white space is closed, since none is special.
- `dropBefore_field`: paths are read back.

`escape_inverts` puts them together for texts, tags and field names.
-/

namespace SearchQuery.Syntax

open SearchQuery.Escape

/-! ## Escaped texts -/

/-- The text that an escaped one stands for: each backslash that escapes is
dropped, and the character after it kept. -/
def unescape (cs : List Char) : List Char := (signs cs).map Sign.char

/-- A character as a class is escaped: one of the class behind a backslash,
any other alone. -/
inductive IsPiece (p : Char → Bool) : List Char → Prop
  | plain {c : Char} (h : p c = false) : IsPiece p [c]
  | escaped {c : Char} (h : p c = true) : IsPiece p ['\\', c]

/-- The text is a row of pieces. -/
def IsEscaped (p : Char → Bool) (cs : List Char) : Prop :=
  ∃ pieces : List (List Char), (∀ piece ∈ pieces, IsPiece p piece) ∧ pieces.flatten = cs

section Classes

variable {p : Char → Bool}

theorem IsEscaped.nil : IsEscaped p [] := by
  refine ⟨[], ?_, rfl⟩
  intro piece h
  cases h

theorem IsEscaped.append {cs ds : List Char} (hcs : IsEscaped p cs) (hds : IsEscaped p ds) :
    IsEscaped p (cs ++ ds) := by
  obtain ⟨pieces, hpieces, rfl⟩ := hcs
  obtain ⟨rest, hrest, rfl⟩ := hds
  exact ⟨pieces ++ rest, List.forall_mem_append.mpr ⟨hpieces, hrest⟩, List.flatten_append⟩

theorem IsPiece.isEscaped {piece : List Char} (h : IsPiece p piece) : IsEscaped p piece :=
  ⟨[piece], by simpa using h, List.flatten_singleton⟩

/-- A piece is what one character is escaped to. -/
theorem IsPiece.exists_escapeChars {piece : List Char} (h : IsPiece p piece) (cs : List Char) :
    ∃ c, escapeChars p (c :: cs) = piece ++ escapeChars p cs := by
  cases h with
  | @plain c hc => exact ⟨c, escapeChars_cons_of_neg hc cs⟩
  | @escaped c hc => exact ⟨c, escapeChars_cons_of_pos hc cs⟩

/-- What is escaped is a row of pieces, one for each character. -/
theorem isEscaped_escapeChars (cs : List Char) : IsEscaped p (escapeChars p cs) := by
  induction cs with
  | nil => exact .nil
  | cons c cs ih =>
    by_cases hc : p c = true
    · rw [escapeChars_cons_of_pos hc]
      exact (IsPiece.escaped hc).isEscaped.append ih
    · rw [escapeChars_cons_of_neg (Bool.eq_false_iff.mpr hc)]
      exact (IsPiece.plain (Bool.eq_false_iff.mpr hc)).isEscaped.append ih

/-- Every row of pieces is what some text is escaped to. -/
theorem exists_escapeChars_eq {cs : List Char} (h : IsEscaped p cs) :
    ∃ value, escapeChars p value = cs := by
  obtain ⟨pieces, hpieces, rfl⟩ := h
  induction pieces with
  | nil => exact ⟨[], rfl⟩
  | cons piece pieces ih =>
    obtain ⟨hpiece, hrest⟩ := List.forall_mem_cons.mp hpieces
    obtain ⟨value, hvalue⟩ := ih hrest
    obtain ⟨c, hc⟩ := hpiece.exists_escapeChars value
    exact ⟨c :: value, by rw [hc, hvalue, List.flatten_cons]⟩

/-- **Escaping is undone**, as long as the backslash itself is escaped. -/
theorem unescape_escapeChars (hp : p '\\' = true) (cs : List Char) :
    unescape (escapeChars p cs) = cs := by
  have hsigns := signs_escapeChars_append hp cs []
  rw [List.append_nil] at hsigns
  rw [unescape, hsigns, signs, List.append_nil, List.map_map]
  exact List.map_id cs

/-- A row of pieces is escaped to itself once it is undone, and no other
text is. -/
theorem escapeChars_unescape_iff (hp : p '\\' = true) {cs : List Char} :
    escapeChars p (unescape cs) = cs ↔ IsEscaped p cs := by
  constructor
  · intro h
    rw [← h]
    exact isEscaped_escapeChars _
  · intro h
    obtain ⟨value, rfl⟩ := exists_escapeChars_eq h
    rw [unescape_escapeChars hp]

end Classes

/-! ## Ways to write a value -/

/-- A way to write values escapes a class of characters and nothing else,
and can be undone. -/
structure EscapesExactly (p : Char → Bool) (write : String → String) : Prop where
  /-- Undoing it gives the value back. -/
  unescape_write : ∀ value, String.ofList (unescape (write value).toList) = value
  /-- The texts written are the rows of pieces. -/
  exists_write_eq_iff : ∀ t, (∃ value, write value = t) ↔ IsEscaped p t.toList
  /-- The rows of pieces are the texts that are written again once they are
  undone. -/
  write_unescape_iff : ∀ t,
    write (String.ofList (unescape t.toList)) = t ↔ IsEscaped p t.toList

/-- Escaping a class that has the backslash in it can be undone. -/
theorem escapesExactly {p : Char → Bool} (hp : p '\\' = true) :
    EscapesExactly p fun value => String.ofList (escapeChars p value.toList) where
  unescape_write value := by
    rw [String.toList_ofList, unescape_escapeChars hp, String.ofList_toList]
  exists_write_eq_iff t := by
    constructor
    · rintro ⟨value, rfl⟩
      rw [String.toList_ofList]
      exact isEscaped_escapeChars _
    · intro h
      obtain ⟨value, hvalue⟩ := exists_escapeChars_eq h
      refine ⟨String.ofList value, ?_⟩
      rw [String.toList_ofList, hvalue, String.ofList_toList]
  write_unescape_iff t := by
    rw [← String.toList_inj, String.toList_ofList, String.toList_ofList,
      escapeChars_unescape_iff hp]

/-! ## White space -/

/-- A term has open white space when its value has white space. -/
theorem hasOpenSpace_text_iff {value : String} :
    hasOpenSpace (text value).toList = true ↔ ∃ c ∈ value.toList, Text.isSpace c = true := by
  rw [toList_text, hasOpenSpace_escapeChars isSpecial_backslash, List.any_eq_true]
  refine exists_congr fun c => and_congr_right fun _ => ?_
  by_cases hspecial : isSpecial c = true
  · simp [hspecial, isSpace_of_isSpecial hspecial]
  · simp [hspecial]

/-- A tag has open white space when its value has white space other than the
plain space. -/
theorem hasOpenSpace_tag_iff {value : String} :
    hasOpenSpace (tag value).toList = true ↔
      ∃ c ∈ value.toList, Text.isSpace c = true ∧ c ≠ ' ' := by
  rw [toList_tag, hasOpenSpace_escapeChars (by decide), List.any_eq_true]
  refine exists_congr fun c => and_congr_right fun _ => ?_
  by_cases hspecial : isSpecial c = true
  · simp [isTagSpecial, hspecial, isSpace_of_isSpecial hspecial]
  · simp [isTagSpecial, hspecial, and_comm]

/-! ## Paths -/

/-- The text without the character before each one of a class. -/
def dropBefore (p : Char → Bool) : List Char → List Char
  | c :: d :: cs => if p d then dropBefore p (d :: cs) else c :: dropBefore p (d :: cs)
  | cs => cs

/-- A character stays that no character of the class comes after. -/
theorem dropBefore_cons {p : Char → Bool} {cs : List Char} (h : ∀ d ∈ cs.head?, p d = false)
    (c : Char) : dropBefore p (c :: cs) = c :: dropBefore p cs := by
  cases cs with
  | nil => rfl
  | cons d cs => rw [dropBefore, h d rfl, if_neg Bool.false_ne_true]

/-- No escaped text begins with a character of the class: a backslash comes
first. -/
theorem head?_escapeChars {p : Char → Bool} (hp : p '\\' = false) (cs : List Char) :
    ∀ d ∈ (escapeChars p cs).head?, p d = false := by
  intro d hd
  cases cs with
  | nil => cases hd
  | cons c cs =>
    by_cases hc : p c = true
    · rw [escapeChars_cons_of_pos hc] at hd
      cases hd
      exact hp
    · rw [escapeChars_cons_of_neg (Bool.eq_false_iff.mpr hc)] at hd
      cases hd
      exact Bool.eq_false_iff.mpr hc

/-- Escaping a class without the backslash is undone by position: what
stands before a character of the class is the backslash it was given. -/
theorem dropBefore_escapeChars {p : Char → Bool} (hp : p '\\' = false) (cs : List Char) :
    dropBefore p (escapeChars p cs) = cs := by
  induction cs with
  | nil => rfl
  | cons c cs ih =>
    have hhead := head?_escapeChars hp cs
    by_cases hc : p c = true
    · rw [escapeChars_cons_of_pos hc, dropBefore, hc, if_pos rfl, dropBefore_cons hhead, ih]
    · rw [escapeChars_cons_of_neg (Bool.eq_false_iff.mpr hc), dropBefore_cons hhead, ih]

/-- A path is read back from its escaped form, whatever backslashes it has
of its own. -/
theorem dropBefore_field (rest : String) :
    dropBefore isPathSpecial (field ("$." ++ rest)).toList = ("$." ++ rest).toList := by
  have hpath : isPath ("$." ++ rest) = true := by
    rw [isPath, String.toList_append]
    rfl
  rw [field, hpath, if_pos rfl, String.toList_ofList, dropBefore_escapeChars (by decide)]

/-! ## Every way -/

/-- **Escaping can be undone and is no stronger than it has to be**, for
terms, tags and paths. -/
theorem escape_inverts :
    EscapesExactly isSpecial text ∧
    EscapesExactly (fun c => isSpecial c || c == ' ') tag ∧
    (∀ value, hasOpenSpace (text value).toList = true ↔
      ∃ c ∈ value.toList, Text.isSpace c = true) ∧
    (∀ value, hasOpenSpace (tag value).toList = true ↔
      ∃ c ∈ value.toList, Text.isSpace c = true ∧ c ≠ ' ') ∧
    ∀ rest, dropBefore isPathSpecial (field ("$." ++ rest)).toList = ("$." ++ rest).toList :=
  ⟨escapesExactly isSpecial_backslash, escapesExactly (p := isTagSpecial) (by decide),
    fun _ => hasOpenSpace_text_iff, fun _ => hasOpenSpace_tag_iff, dropBefore_field⟩

end SearchQuery.Syntax
