import SearchQuery.Filter.Geo
import SearchQuery.Filter.Numeric
import SearchQuery.Filter.Tag
import SearchQuery.Filter.Text
import SearchQuery.Proofs.Accepted
import SearchQuery.Proofs.Decimal.Figures
import SearchQuery.Proofs.Syntax.Enclosed

/-!
# Leaves are contained

A leaf is written from a field and a value that a caller gives. Whatever
the value is, the leaf is one operand: it is `*`, an atom, or one of these
behind a minus sign. So no value ends its leaf early, leaves a delimiter
open, or adds an operand beside it.

The field is the caller's own: a name that is not closed once it stands
behind its sign is outside the statement, as are the conditions whose value
is the engine's own syntax (a fragment, a pattern). So are the two whose value
stands between operators and not between delimiters, a beginning and a near
word: nothing holds several words of it together.

## What is proved

`isOperand_build_of_made` — every leaf that was made for a closed reference
is an operand. Each way of making leaves has its lemma, on the text that it
writes behind the reference:

- terms and tags are escaped, and the scan passes over an escaped text
  inside a delimiter (`Scan.run_escapeChars`); a term without parentheses
  has no open white space, which is how `terms` chose to write it so;
- a phrase stands in a region of quotes, a range and a place in a region of
  brackets, and there only the region's end and the backslash count. A
  number has neither (`isFigure`), and the parenthesis of a bound that is
  left out is inert.

`isAtom_beginning_and_near_iff` — a beginning or a near word is an atom exactly
when it is one word: the field reaches as far as the first white space, and the
scan of an escaped text outside all delimiters ends there
(`Scan.run_escapeChars_outside`).
-/

namespace SearchQuery.Filter

open SearchQuery.Syntax

/-! ## Operands -/

/-- The text is `*` or an atom. -/
def IsPositive (cs : List Char) : Prop := cs = ['*'] ∨ isAtom cs = true

/-- The text is `*` or an atom, or one of these behind a minus sign. -/
def IsOperand (cs : List Char) : Prop :=
  IsPositive cs ∨ ∃ rest, cs = '-' :: rest ∧ IsPositive rest

/-- A leaf that was made for a field from values that were accepted. -/
inductive Made (field : String) : Filter → Prop
  | text {value : String} {t : Filter} : Filter.text field value = .ok t → Made field t
  | textNot {value : String} {t : Filter} : Filter.textNot field value = .ok t → Made field t
  | exact {phrase : String} {t : Filter} : Filter.exact field phrase = .ok t → Made field t
  | tag {values : List String} {t : Filter} : Filter.tag field values = .ok t → Made field t
  | tagNot {values : List String} {t : Filter} :
    Filter.tagNot field values = .ok t → Made field t
  | compare {c : Comparison} {x : Double} {t : Filter} :
    Filter.compare field c x = .ok t → Made field t
  | between {min max : Double} {inclusive : Inclusive} {t : Filter} :
    Filter.between field min max inclusive = .ok t → Made field t
  | withinRadius {lon lat radius : Double} {unit : GeoUnit} {t : Filter} :
    Filter.withinRadius field lon lat radius unit = .ok t → Made field t
  | outsideRadius {lon lat radius : Double} {unit : GeoUnit} {t : Filter} :
    Filter.outsideRadius field lon lat radius unit = .ok t → Made field t
  | withinBox {minLon minLat maxLon maxLat : Double} {t : Filter} :
    Filter.withinBox field minLon minLat maxLon maxLat = .ok t → Made field t

/-- A closed reference to a field is an atom. -/
theorem isAtom_ref {name : String} (h : isClosed ("@" ++ name).toList = true) :
    isAtom ("@" ++ name).toList = true := by
  refine Bool.and_eq_true_iff.mpr ⟨?_, h⟩
  rw [String.toList_append]
  rfl

section Reference

variable {ref : String}

/-! ## Text -/

/-- Behind a reference, an escaped text between special delimiters
makes a longer atom. -/
theorem isAtom_escaped {p : Char → Bool} (href : isAtom ref.toList = true)
    {opening closer : Char} (h : closerOf? opening = some closer)
    (hp : ∀ c, p c = false → Escape.isSpecial c = false)
    (cs : List Char) :
    isAtom (ref.toList ++ ':' :: opening :: (Escape.escapeChars p cs ++ [closer])) = true := by
  have hcloser : Escape.isSpecial closer = true := (isSpecial_of_closerOf? h).2
  refine isAtom_append href (Scan.run_enclosed h (Scan.run_escapeChars rfl ?_))
  intro c _ hc
  exact Scan.step_of_not_isSpecial (Scan.settled_inside hcloser) (hp c hc)
    (.inl (List.cons_ne_nil _ _))

/-- Terms are everything or an atom. -/
theorem isPositive_terms (href : isAtom ref.toList = true) (value : String) :
    IsPositive (terms ref value).toList := by
  unfold terms
  split
  · exact .inl (by decide)
  · refine .inr ?_
    dsimp only
    rw [Escape.toList_text]
    split
    · have hparen : closerOf? '(' = some ')' := rfl
      have hatom := isAtom_escaped href hparen (fun _ => id) value.toList
      simp only [String.toList_append, Escape.toList_text, List.append_assoc]
      exact hatom
    · next hopen =>
      have hspace :
          Escape.hasOpenSpace (Escape.escapeChars Escape.isSpecial value.toList) = false :=
        Bool.not_eq_true _ ▸ hopen
      have hrun : Scan.run {} (Escape.escapeChars Escape.isSpecial value.toList) = some {} :=
        Scan.run_escapeChars rfl fun c hc hspecial =>
          Scan.step_of_not_isSpecial Scan.settled_outside hspecial
            (.inr (Escape.isSpace_of_hasOpenSpace Escape.isSpecial_backslash hspace hc hspecial))
      have hcolon : Scan.run {} (':' :: Escape.escapeChars Escape.isSpecial value.toList) =
          some {} := hrun
      have hatom := isAtom_append href hcolon
      simp only [String.toList_append, Escape.toList_text, List.append_assoc]
      exact hatom

/-- A phrase is an atom. -/
theorem isAtom_phrase (href : isAtom ref.toList = true) (phrase : String) :
    isAtom (ref ++ ":\"" ++ Escape.text phrase ++ "\"").toList = true := by
  have hquote : closerOf? '"' = some '"' := rfl
  have hatom := isAtom_escaped href hquote (fun _ => id) phrase.toList
  simp only [String.toList_append, Escape.toList_text, List.append_assoc]
  exact hatom

/-! ## Tags -/

/-- What is left as it is in a tag is left as it is in a text. -/
theorem isSpecial_of_not_isTagSpecial {c : Char} (h : Escape.isTagSpecial c = false) :
    Escape.isSpecial c = false :=
  (Bool.or_eq_false_iff.mp h).1

/-- A set of tags is everything or an atom: the bars between the tags are
inert inside the braces. -/
theorem isPositive_tagSet (href : isAtom ref.toList = true) (values : List String) :
    IsPositive (tagSet ref values).toList := by
  have hinside : Scan.Settled { due := ['}'] } := Scan.settled_inside (by decide)
  have hbar : Scan.run { due := ['}'] } ['|'] = some { due := ['}'] } := by decide
  have hparts : ∀ (tags : List String), ∀ part ∈ (tags.map Escape.tag).map String.toList,
      Scan.run { due := ['}'] } part = some { due := ['}'] } := by
    intro tags part hpart
    obtain ⟨written, hwritten, rfl⟩ := List.mem_map.mp hpart
    obtain ⟨value, -, rfl⟩ := List.mem_map.mp hwritten
    rw [Escape.toList_tag]
    exact Scan.run_escapeChars rfl fun c _ hc =>
      Scan.step_of_not_isSpecial hinside (isSpecial_of_not_isTagSpecial hc)
        (.inl (List.cons_ne_nil _ _))
  unfold tagSet
  split
  · exact .inl (by decide)
  · refine .inr ?_
    have hrun := Scan.run_intercalate hbar (hparts (tagValues values))
    have hbrace : closerOf? '{' = some '}' := rfl
    have hatom := isAtom_append href (Scan.run_enclosed hbrace hrun)
    simp only [String.toList_append, String.toList_intercalate, List.append_assoc]
    exact hatom

/-! ## Numbers and places -/

/-- No character of the text counts in a region of brackets. -/
def IsRegionText (cs : List Char) : Prop := ∀ c ∈ cs, c ≠ ']' ∧ c ≠ '\\'

instance (cs : List Char) : Decidable (IsRegionText cs) := List.decidableBAll _ _

/-- Two texts that may stand in brackets may stand there together. -/
theorem isRegionText_append {cs ds : List Char} (hcs : IsRegionText cs) (hds : IsRegionText ds) :
    IsRegionText (cs ++ ds) := by
  intro c hc
  rcases List.mem_append.mp hc with hc | hc
  · exact hcs c hc
  · exact hds c hc

/-- Figures may stand in brackets. -/
theorem isRegionText_of_isFigure {cs : List Char} (h : ∀ c ∈ cs, isFigure c = true) :
    IsRegionText cs :=
  fun c hc => ⟨ne_of_isFigure (h c hc) (by decide), ne_of_isFigure (h c hc) (by decide)⟩

/-- Numbers may stand in brackets, the infinities among them. -/
theorem isRegionText_literal (x : Double) : IsRegionText (Double.literal x).toList :=
  isRegionText_of_isFigure fun _ => Double.isFigure_of_mem_literal

theorem isRegionText_space : IsRegionText " ".toList := by decide

/-- A bound may stand in brackets with its parenthesis, which nothing there has
to close. -/
theorem isRegionText_bound (x : Double) (included : Bool) :
    IsRegionText (bound x included).toList := by
  have hparen : IsRegionText "(".toList := by decide
  unfold bound
  split
  · exact isRegionText_literal x
  · rw [String.toList_append]
    exact isRegionText_append hparen (isRegionText_literal x)

theorem isRegionText_unit (unit : GeoUnit) : IsRegionText unit.name.toList := by
  cases unit <;> decide

/-- A region of brackets behind a reference makes a longer atom. -/
theorem isAtom_region (href : isAtom ref.toList = true) {cs : List Char} (h : IsRegionText cs) :
    isAtom (ref.toList ++ ':' :: '[' :: (cs ++ [']'])) = true :=
  isAtom_append href <| Scan.run_enclosed rfl <| Scan.run_of_forall fun c hc =>
    Scan.step_region rfl (h c hc).1 (h c hc).2

/-- A range of numbers is an atom. -/
theorem isAtom_numericRange (href : isAtom ref.toList = true) (min max : Double)
    (inclusive : Inclusive) : isAtom (numericRange ref min max inclusive).toList = true := by
  have hatom := isAtom_region href
    (isRegionText_append (isRegionText_bound min inclusive.includesMin)
      (isRegionText_append isRegionText_space (isRegionText_bound max inclusive.includesMax)))
  unfold numericRange
  simp only [String.toList_append, List.append_assoc] at hatom ⊢
  exact hatom

/-- A comparison is a range, or a range behind a minus sign. -/
theorem isOperand_comparisonRange (href : isAtom ref.toList = true) (c : Comparison)
    (x : Double) : IsOperand (comparisonRange ref c x).toList := by
  have hrange : ∀ min max inclusive, IsPositive (numericRange ref min max inclusive).toList :=
    fun min max inclusive => .inr (isAtom_numericRange href min max inclusive)
  cases c with
  | ne => exact .inr ⟨_, String.toList_append, hrange x x .both⟩
  | eq => exact .inl (hrange _ _ _)
  | gt => exact .inl (hrange _ _ _)
  | gte => exact .inl (hrange _ _ _)
  | lt => exact .inl (hrange _ _ _)
  | lte => exact .inl (hrange _ _ _)

/-- A circle is an atom. -/
theorem isAtom_circle (href : isAtom ref.toList = true) {lon lat radius : Double}
    {unit : GeoUnit} {written : String} (h : circle ref lon lat radius unit = .ok written) :
    isAtom written.toList = true := by
  obtain ⟨-, -, h⟩ := bind_eq_ok.mp h
  split at h
  · cases h
    have hatom := isAtom_region href
      (isRegionText_append (isRegionText_literal lon) (isRegionText_append isRegionText_space
        (isRegionText_append (isRegionText_literal lat) (isRegionText_append isRegionText_space
          (isRegionText_append (isRegionText_literal radius) (isRegionText_append
            isRegionText_space (isRegionText_unit unit)))))))
    simp only [String.toList_append, List.append_assoc] at hatom ⊢
    exact hatom
  · cases h

/-- The corners of a box are an atom. -/
theorem isAtom_corners (href : isAtom ref.toList = true) (corners : List Double) :
    isAtom (ref ++ ":[" ++ " ".intercalate (corners.map (Double.fixed boxPlaces)) ++ "]").toList
      = true := by
  have hcorners : IsRegionText
      (" ".toList.intercalate ((corners.map (Double.fixed boxPlaces)).map String.toList)) := by
    induction corners with
    | nil =>
      intro c hc
      cases hc
    | cons x corners ih =>
      have hx : IsRegionText (x.fixed boxPlaces).toList :=
        isRegionText_of_isFigure fun _ => Double.isFigure_of_mem_fixed
      cases corners with
      | nil =>
        rw [List.map_singleton, List.map_singleton, List.intercalate_singleton]
        exact hx
      | cons y corners =>
        rw [List.map_cons, List.map_cons, List.map_cons, List.map_cons,
          List.intercalate_cons_cons]
        exact isRegionText_append (isRegionText_append hx isRegionText_space) ih
  have hatom := isAtom_region href hcorners
  simp only [String.toList_append, String.toList_intercalate, List.append_assoc]
  exact hatom

end Reference

/-! ## Leaves -/

@[simp] theorem build_textLeaf (field expression : String) :
    (textLeaf field expression).build = expression := rfl

/-- The negation of a leaf that is everything or an atom is an operand. -/
theorem isOperand_build_not {t : Filter} (h : IsPositive t.build.toList) :
    IsOperand (Filter.not t).build.toList :=
  .inr ⟨_, String.toList_append, h⟩

/-- A text filter is one operand that no minus sign begins. -/
theorem isPositive_build_text {field value : String} {t : Filter}
    (hfield : isClosed ("@" ++ Escape.field field).toList = true)
    (h : Filter.text field value = .ok t) : IsPositive t.build.toList := by
  have h := fieldRef_bind_eq_ok h
  cases h
  rw [build_textLeaf]
  exact isPositive_terms (isAtom_ref hfield) (Text.trim value)

/-- A tag filter is one operand that no minus sign begins. -/
theorem isPositive_build_tag {field : String} {values : List String} {t : Filter}
    (hfield : isClosed ("@" ++ Escape.field field).toList = true)
    (h : Filter.tag field values = .ok t) : IsPositive t.build.toList := by
  have h := fieldRef_bind_eq_ok h
  cases h
  exact isPositive_tagSet (isAtom_ref hfield) values

/-- **Leaves are contained.** Whatever values a leaf was made from, behind a
closed reference it is one operand. -/
theorem isOperand_build_of_made {field : String} {t : Filter}
    (hfield : isClosed ("@" ++ Escape.field field).toList = true) (h : Made field t) :
    IsOperand t.build.toList := by
  have hatom := isAtom_ref hfield
  cases h with
  | text h => exact .inl (isPositive_build_text hfield h)
  | textNot h =>
    obtain ⟨inner, hinner, h⟩ := bind_eq_ok.mp h
    cases h
    exact isOperand_build_not (isPositive_build_text hfield hinner)
  | exact h =>
    have h := fieldRef_bind_eq_ok h
    obtain ⟨phrase, -, h⟩ := bind_eq_ok.mp h
    cases h
    rw [build_textLeaf]
    exact .inl (.inr (isAtom_phrase hatom phrase))
  | tag h => exact .inl (isPositive_build_tag hfield h)
  | tagNot h =>
    obtain ⟨inner, hinner, h⟩ := bind_eq_ok.mp h
    cases h
    exact isOperand_build_not (isPositive_build_tag hfield hinner)
  | @compare c x t h =>
    have h := fieldRef_bind_eq_ok h
    obtain ⟨x, -, h⟩ := bind_eq_ok.mp h
    cases h
    exact isOperand_comparisonRange hatom c x
  | @between min max inclusive t h =>
    have h := fieldRef_bind_eq_ok h
    obtain ⟨min, -, h⟩ := bind_eq_ok.mp h
    obtain ⟨max, -, h⟩ := bind_eq_ok.mp h
    split at h
    · cases h
    · cases h
      exact .inl (.inr (isAtom_numericRange hatom min max inclusive))
  | withinRadius h =>
    have h := fieldRef_bind_eq_ok h
    obtain ⟨written, hcircle, h⟩ := bind_eq_ok.mp h
    cases h
    exact .inl (.inr (isAtom_circle hatom hcircle))
  | outsideRadius h =>
    have h := fieldRef_bind_eq_ok h
    obtain ⟨written, hcircle, h⟩ := bind_eq_ok.mp h
    cases h
    exact .inr ⟨_, String.toList_append, .inr (isAtom_circle hatom hcircle)⟩
  | @withinBox minLon minLat maxLon maxLat t h =>
    have h := fieldRef_bind_eq_ok h
    obtain ⟨-, -, h⟩ := bind_eq_ok.mp h
    obtain ⟨-, -, h⟩ := bind_eq_ok.mp h
    split at h
    · cases h
    · cases h
      exact .inl (.inr (isAtom_corners hatom [minLon, minLat, maxLon, maxLat]))

/-- A value that tries to close its parenthesis and to add an alternative. -/
theorem isOperand_build_of_made_escaping :
    let t := textLeaf "$.title" "@\\$\\.title:(x\\) \\| \\@evil\\:\\(y)"
    isClosed ("@" ++ Escape.field "$.title").toList = true ∧
      Filter.text "$.title" "x) | @evil:(y" = .ok t ∧ IsOperand t.build.toList := by
  intro t
  have hfield : isClosed ("@" ++ Escape.field "$.title").toList = true := by decide
  have htext : Filter.text "$.title" "x) | @evil:(y" = .ok t := rfl
  exact ⟨hfield, htext, isOperand_build_of_made hfield (.text htext)⟩

/-! ## Values between operators -/

/-- Behind a reference and between operators, an escaped text is part of the atom
exactly when it has no white space. -/
theorem isAtom_between_iff {ref before after : String} (href : isAtom ref.toList = true)
    (hbefore : Scan.run {} before.toList = some {}) (hafter : Scan.run {} after.toList = some {})
    (value : String) :
    isAtom (ref ++ before ++ Escape.text value ++ after).toList = true ↔
      ∀ c ∈ value.toList, Text.isSpace c = false := by
  have hopening : isAtom (ref.toList ++ before.toList) = true := isAtom_append href hbefore
  have hvalue := Scan.run_escapeChars_outside value.toList
  simp only [String.toList_append, Escape.toList_text]
  constructor
  · intro hatom
    by_contra hspace
    -- the scan ends at the white space, so nothing after it closes the text
    have hany : value.toList.any Text.isSpace = true := by simpa using hspace
    have hclosed := (Bool.and_eq_true_iff.mp hatom).2
    rw [isClosed_iff, List.append_assoc, Scan.run_append,
      isClosed_iff.mp (Bool.and_eq_true_iff.mp hopening).2, Option.bind_some, Scan.run_append,
      hvalue, if_pos hany, Option.bind_none] at hclosed
    cases hclosed
  · intro hspace
    have hany : ¬value.toList.any Text.isSpace = true := by simpa using hspace
    rw [if_neg hany] at hvalue
    exact isAtom_append (isAtom_append hopening hvalue) hafter

/-- A beginning that is not blank is accepted, and stands before a star without the
white space around it. -/
theorem startsWith_eq_ok {field value : String} (hfield : Text.isBlank field = false)
    (hvalue : Text.isBlank value = false) :
    startsWith field value = .ok (textLeaf field
      ("@" ++ Escape.field field ++ ":" ++ Escape.text (Text.trim value) ++ "*")) :=
  bind_eq_ok.mpr ⟨_, fieldRef_eq_ok hfield, bind_eq_ok.mpr ⟨_, required_eq_ok hvalue, rfl⟩⟩

/-- A near word that is not blank is accepted, and stands between percent signs
without the white space around it. -/
theorem fuzzy_eq_ok {field value : String} (hfield : Text.isBlank field = false)
    (hvalue : Text.isBlank value = false) :
    fuzzy field value = .ok (textLeaf field
      ("@" ++ Escape.field field ++ ":%" ++ Escape.text (Text.trim value) ++ "%")) :=
  bind_eq_ok.mpr ⟨_, fieldRef_eq_ok hfield, bind_eq_ok.mpr ⟨_, required_eq_ok hvalue, rfl⟩⟩

/-- **A beginning or a near word is one operand exactly when it is one word**: for
every field with a name whose reference is closed and every value that is not blank,
both conditions are made, and what they write is an atom when no white space is left
inside the value, and is not closed when some is. -/
theorem isAtom_beginning_and_near_iff {field value : String} (hname : Text.isBlank field = false)
    (hfield : isClosed ("@" ++ Escape.field field).toList = true)
    (hvalue : Text.isBlank value = false) :
    (∃ t, startsWith field value = .ok t ∧
      (isAtom t.build.toList = true ↔ ∀ c ∈ (Text.trim value).toList, Text.isSpace c = false)) ∧
    (∃ t, fuzzy field value = .ok t ∧
      (isAtom t.build.toList = true ↔ ∀ c ∈ (Text.trim value).toList, Text.isSpace c = false)) := by
  have href := isAtom_ref hfield
  refine ⟨⟨_, startsWith_eq_ok hname hvalue, ?_⟩, ⟨_, fuzzy_eq_ok hname hvalue, ?_⟩⟩
  · rw [build_textLeaf]
    exact isAtom_between_iff href (by decide) (by decide) (Text.trim value)
  · rw [build_textLeaf]
    exact isAtom_between_iff href (by decide) (by decide) (Text.trim value)

/-- A no-break space is white space like any other, and is not escaped. -/
theorem isAtom_beginning_and_near_iff_noBreak :
    Text.isBlank "$.title" = false ∧ isClosed ("@" ++ Escape.field "$.title").toList = true ∧
      Text.isBlank "10\u00a0%" = false ∧
      (∃ t, startsWith "$.title" "10\u00a0%" = .ok t ∧ ¬isAtom t.build.toList = true) ∧
      ∃ t, fuzzy "$.title" "10\u00a0%" = .ok t ∧ ¬isAtom t.build.toList = true := by
  have hname : Text.isBlank "$.title" = false := by decide
  have hfield : isClosed ("@" ++ Escape.field "$.title").toList = true := by decide
  have hvalue : Text.isBlank "10\u00a0%" = false := by decide
  have hspace : ¬∀ c ∈ (Text.trim "10\u00a0%").toList, Text.isSpace c = false := by
    intro h
    have hbreak := h '\u00a0' (by decide)
    cases hbreak
  obtain ⟨⟨t, ht, hatom⟩, s, hs, hatom'⟩ := isAtom_beginning_and_near_iff hname hfield hvalue
  exact ⟨hname, hfield, hvalue, ⟨t, ht, hatom.not.mpr hspace⟩, s, hs, hatom'.not.mpr hspace⟩

/-- Two words are accepted as a beginning and as a near word, and neither condition
is one operand: the field reaches no farther than the first word. -/
theorem exists_beginning_and_near_not_isAtom :
    Text.isBlank "name" = false ∧ isClosed ("@" ++ Escape.field "name").toList = true ∧
      Text.isBlank "hello world" = false ∧
      startsWith "name" "hello world" = .ok (textLeaf "name" "@name:hello world*") ∧
      isAtom (textLeaf "name" "@name:hello world*").build.toList = false ∧
      fuzzy "name" "hello world" = .ok (textLeaf "name" "@name:%hello world%") ∧
      isAtom (textLeaf "name" "@name:%hello world%").build.toList = false := by
  refine ⟨by decide, by decide, by decide, rfl, ?_, rfl, ?_⟩
  · rw [build_textLeaf]
    decide
  · rw [build_textLeaf]
    decide

end SearchQuery.Filter
