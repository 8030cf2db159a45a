import Mathlib.Data.List.TakeWhile
import SearchQuery.Proofs.Escape

/-!
# Marked names

A query string names its placeholders by a sign, `$`, and the letters,
digits and underscores after it. A sign behind a backslash is text and
marks nothing.

`marked_append` is the law that the rest goes by: a text is read piece by
piece, provided that each later piece starts with a character that ends a
name and is neither the sign nor a backslash. A lone backslash at the end
of a piece then covers a character that marks nothing anyway.
-/

namespace SearchQuery.Syntax

open SearchQuery.Escape

/-- A character of a marked name. -/
def isNameChar (c : Char) : Bool := c.isAlphanum || c == '_'

/-- The names behind the open signs of a text, in order. A backslash covers
the one character after it, whatever that is. -/
def marked (sign : Char) : List Char → List String
  | [] => []
  | '\\' :: [] => []
  | '\\' :: _ :: cs => marked sign cs
  | c :: cs =>
    if c == sign then String.ofList (cs.takeWhile isNameChar) :: marked sign cs
    else marked sign cs

variable {sign : Char}

/-! ## One character -/

/-- The character is neither the sign nor a backslash. -/
def IsPlain (sign c : Char) : Prop := c ≠ sign ∧ c ≠ '\\'

/-- The text is empty or starts with a character that ends a name and marks
nothing. -/
def IsBoundary (sign : Char) : List Char → Prop
  | [] => True
  | c :: _ => isNameChar c = false ∧ IsPlain sign c

/-- The text stands between two others and marks nothing itself. -/
def IsSeparator (sign : Char) (cs : List Char) : Prop :=
  cs ≠ [] ∧ IsBoundary sign cs ∧ ∀ c ∈ cs, IsPlain sign c

instance (c : Char) : Decidable (IsPlain sign c) :=
  inferInstanceAs (Decidable (_ ∧ _))

instance : (cs : List Char) → Decidable (IsBoundary sign cs)
  | [] => .isTrue trivial
  | _ :: _ => inferInstanceAs (Decidable (_ ∧ _))

-- the characters of a list are decided one by one, and not all characters
instance (cs : List Char) : Decidable (IsSeparator sign cs) :=
  @instDecidableAnd _ _ _ (@instDecidableAnd _ _ _ (List.decidableBAll _ _))

/-- The characters of a name are plain, since the sign is not one of them. -/
theorem isPlain_of_isNameChar {c : Char} (hsign : isNameChar sign = false)
    (hc : isNameChar c = true) : IsPlain sign c := by
  refine ⟨?_, ?_⟩
  · rintro rfl
    rw [hc] at hsign
    cases hsign
  · rintro rfl
    exact absurd hc (by decide)

theorem isSpecial_of_isNameChar {c : Char} (h : isNameChar c = true) :
    isSpecial c = false := by
  have hspecial : specialChars.all (fun d => !isNameChar d) = true := by decide
  rw [isSpecial, List.contains_eq_mem, decide_eq_false_iff_not]
  intro hc
  have hnot := List.all_eq_true.mp hspecial c hc
  rw [h] at hnot
  cases hnot

theorem marked_pair (c : Char) (cs : List Char) :
    marked sign ('\\' :: c :: cs) = marked sign cs := by
  rw [marked]

theorem marked_cons {c : Char} (h : c ≠ '\\') (cs : List Char) :
    marked sign (c :: cs) =
      if c == sign then String.ofList (cs.takeWhile isNameChar) :: marked sign cs
      else marked sign cs := by
  rw [marked]
  · exact fun hc _ => h hc
  · exact fun _ _ hc _ => h hc

theorem marked_cons_of_isPlain {c : Char} (h : IsPlain sign c) (cs : List Char) :
    marked sign (c :: cs) = marked sign cs := by
  rw [marked_cons h.2, if_neg (by simpa only [beq_iff_eq] using h.1)]

/-! ## Pieces -/

/-- A name ends where a boundary comes after it. -/
theorem takeWhile_append_of_isBoundary {ds : List Char} (h : IsBoundary sign ds)
    (cs : List Char) : (cs ++ ds).takeWhile isNameChar = cs.takeWhile isNameChar := by
  have hend : ds.takeWhile isNameChar = [] := by
    cases ds with
    | nil => rfl
    | cons d ds => rw [List.takeWhile_cons_of_neg (by rw [h.1]; exact Bool.false_ne_true)]
  rw [List.takeWhile_append, hend, List.append_nil, ite_eq_right_iff]
  intro hlength
  exact ((List.takeWhile_prefix isNameChar).eq_of_length hlength).symm

/-- A character that opens neither of the two patterns of a backslash is
another one. -/
theorem ne_backslash {c : Char} {cs : List Char} (hlone : c = '\\' → cs = [] → False)
    (hpair : ∀ d ds, c = '\\' → cs = d :: ds → False) : c ≠ '\\' := by
  intro hc
  cases cs with
  | nil => exact hlone hc rfl
  | cons d ds => exact hpair d ds hc rfl

/-- The names of a text are those of its pieces. -/
theorem marked_append {ds : List Char} (h : IsBoundary sign ds) (cs : List Char) :
    marked sign (cs ++ ds) = marked sign cs ++ marked sign ds := by
  induction cs using marked.induct sign with
  | case1 => rfl
  | case2 =>
    -- the lone backslash covers the boundary
    cases ds with
    | nil => rfl
    | cons d ds =>
      rw [List.cons_append, List.nil_append, marked_pair, marked_cons_of_isPlain h.2]
      rfl
  | case3 c cs ih => rw [List.cons_append, List.cons_append, marked_pair, marked_pair, ih]
  | case4 c cs hlone hpair hsign ih =>
    have hc := ne_backslash hlone hpair
    rw [List.cons_append, marked_cons hc, marked_cons hc, if_pos hsign, if_pos hsign,
      takeWhile_append_of_isBoundary h, ih, List.cons_append]
  | case5 c cs hlone hpair hsign ih =>
    have hc := ne_backslash hlone hpair
    rw [List.cons_append, marked_cons hc, marked_cons hc, if_neg hsign, if_neg hsign, ih]

/-- Plain characters in front add no name. -/
theorem marked_append_of_isPlain {cs : List Char} (h : ∀ c ∈ cs, IsPlain sign c)
    (ds : List Char) : marked sign (cs ++ ds) = marked sign ds := by
  induction cs with
  | nil => rfl
  | cons c cs ih =>
    rw [List.cons_append, marked_cons_of_isPlain (h c List.mem_cons_self),
      ih fun d hd => h d (List.mem_cons_of_mem _ hd)]

/-- What comes after a separator is apart from what comes before it. -/
theorem isBoundary_append_of_isSeparator {cs : List Char} (h : IsSeparator sign cs)
    (ds : List Char) : IsBoundary sign (cs ++ ds) := by
  obtain ⟨c, cs, rfl⟩ := List.exists_cons_of_ne_nil h.1
  exact h.2.1

theorem marked_append_separator {separator : List Char} (h : IsSeparator sign separator)
    (cs ds : List Char) :
    marked sign (cs ++ (separator ++ ds)) = marked sign cs ++ marked sign ds := by
  rw [marked_append (isBoundary_append_of_isSeparator h ds), marked_append_of_isPlain h.2.2]

theorem marked_of_isPlain {cs : List Char} (h : ∀ c ∈ cs, IsPlain sign c) :
    marked sign cs = [] := by
  have hmarked := marked_append_of_isPlain h []
  rwa [List.append_nil] at hmarked

/-- The names of pieces with a separator between them that has none. -/
theorem marked_intercalate {separator : List Char} (h : IsSeparator sign separator)
    (pieces : List (List Char)) :
    marked sign (separator.intercalate pieces) = pieces.flatMap (marked sign) := by
  induction pieces with
  | nil => rfl
  | cons piece pieces ih =>
    cases pieces with
    | nil => rw [List.intercalate_singleton, List.flatMap_singleton]
    | cons next pieces =>
      rw [List.intercalate_cons_cons, List.append_assoc, marked_append_separator h, ih]
      rfl

/-! ## Names and escaped texts -/

/-- A sign marks the name after it. -/
theorem marked_name (hescape : sign ≠ '\\') (hsign : isNameChar sign = false) {name : String}
    (hname : ∀ c ∈ name.toList, isNameChar c = true) :
    marked sign (sign :: name.toList) = [name] := by
  have hplain : ∀ c ∈ name.toList, IsPlain sign c :=
    fun c hc => isPlain_of_isNameChar hsign (hname c hc)
  rw [marked_cons hescape, if_pos BEq.rfl, marked_of_isPlain hplain,
    List.takeWhile_eq_self_iff.mpr hname, String.ofList_toList]

/-- An escaped text marks nothing when its sign and its backslashes are all
escaped. -/
theorem marked_escapeChars {p : Char → Bool} {cs : List Char}
    (h : ∀ c ∈ cs, p c = false → IsPlain sign c) : marked sign (escapeChars p cs) = [] := by
  induction cs with
  | nil => rfl
  | cons c cs ih =>
    have hrest := ih fun d hd => h d (List.mem_cons_of_mem _ hd)
    cases hc : p c with
    | true => rw [escapeChars_cons_of_pos hc, marked_pair, hrest]
    | false =>
      rw [escapeChars_cons_of_neg hc, marked_cons_of_isPlain (h c List.mem_cons_self hc), hrest]

end SearchQuery.Syntax
