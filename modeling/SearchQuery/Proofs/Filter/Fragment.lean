import SearchQuery.Filter.Restriction
import SearchQuery.Proofs.Filter.Containment
import SearchQuery.Proofs.Filter.Wildcards

/-!
# Written trees as fragments

A fragment loses the white space around it, and a blank one restricts
nothing. A tree loses none, whatever it is written as. So the two ways to
restrict a query can differ: a leaf in the engine's own syntax may have white
space at its ends. No other leaf has any there. It begins with the sign of its
field or with a minus sign, and ends with a delimiter, an operator, or the last
character of a value that was taken without the white space around it; and what
trees add is parentheses, and signs in front.

## What is proved

`isTight_build_of_composed`: a tree of such leaves, however it is composed, is
written with a character at both ends that is no white space. A fragment of such
a text is taken as it is (`Restriction.build_raw`).
-/

namespace SearchQuery

/-! ## Texts that are tight -/

namespace Text

/-- The text begins with a character that is no white space. -/
def StartsTight (s : String) : Prop := ∃ c, s.toList.head? = some c ∧ isSpace c = false

/-- The text ends with a character that is no white space. -/
def EndsTight (s : String) : Prop := ∃ c, s.toList.getLast? = some c ∧ isSpace c = false

/-- The text has something at both ends that is no white space. -/
structure IsTight (s : String) : Prop where
  starts : StartsTight s
  ends : EndsTight s

/-- What begins without white space does so whatever is written behind it. -/
theorem StartsTight.append {s : String} (h : StartsTight s) (t : String) :
    StartsTight (s ++ t) := by
  obtain ⟨c, hc, hspace⟩ := h
  refine ⟨c, ?_, hspace⟩
  rw [String.toList_append, List.head?_append, hc]
  rfl

/-- What ends without white space does so whatever is written before it. -/
theorem EndsTight.append {t : String} (h : EndsTight t) (s : String) : EndsTight (s ++ t) := by
  obtain ⟨c, hc, hspace⟩ := h
  refine ⟨c, ?_, hspace⟩
  rw [String.toList_append, List.getLast?_append, hc]
  rfl

/-- A tight text is not blank, and has no white space around it. -/
theorem IsTight.trim_eq {s : String} (h : IsTight s) : isBlank s = false ∧ trim s = s := by
  obtain ⟨⟨c, hc, hcspace⟩, d, hd, hdspace⟩ := h
  constructor
  · rw [Bool.eq_false_iff]
    intro hblank
    rw [List.all_eq_true.mp hblank c (List.mem_of_head? hc)] at hcspace
    cases hcspace
  · have hbare : IsBare isSpace s.toList := by
      constructor
      · rw [hc]
        rintro _ ⟨⟩
        exact hcspace
      · rw [hd]
        rintro _ ⟨⟩
        exact hdspace
    rw [trim, strip_of_isBare hbare, String.ofList_toList]

/-- A text of two parts is trimmed to itself when its ends are bare. -/
theorem IsTight.append {s t : String} (hs : StartsTight s) (ht : EndsTight t) :
    IsTight (s ++ t) :=
  ⟨hs.append t, ht.append s⟩

/-- A value without the white space around it ends tight, if anything is left
of it. -/
theorem endsTight_trim {s : String} (h : (trim s).isEmpty = false) : EndsTight (trim s) := by
  have hne : (trim s).toList ≠ [] := by
    rw [Ne, String.toList_eq_nil_iff]
    intro hnil
    rw [hnil] at h
    cases h
  obtain ⟨c, hc⟩ := Option.isSome_iff_exists.mp (List.getLast?_isSome.mpr hne)
  refine ⟨c, hc, ?_⟩
  rw [trim, String.toList_ofList] at hc
  exact (isBare_strip isSpace s.toList).2 c hc

end Text

/-- Escaping adds nothing behind a text. -/
theorem Escape.getLast?_escapeChars (p : Char → Bool) (cs : List Char) :
    (escapeChars p cs).getLast? = cs.getLast? := by
  induction cs with
  | nil => rfl
  | cons c cs ih =>
    cases hc : p c with
    | true =>
      rw [escapeChars_cons_of_pos hc, List.getLast?_cons_cons, List.getLast?_cons,
        List.getLast?_cons, ih]
    | false => rw [escapeChars_cons_of_neg hc, List.getLast?_cons, List.getLast?_cons, ih]

/-- An escaped text ends as the text does, in a character that is no white
space. -/
theorem Text.EndsTight.escape {s : String} (h : EndsTight s) : EndsTight (Escape.text s) := by
  obtain ⟨c, hc, hspace⟩ := h
  refine ⟨c, ?_, hspace⟩
  rw [Escape.toList_text, Escape.getLast?_escapeChars, hc]

namespace Filter

open SearchQuery.Text

/-! ## Leaves -/

theorem isTight_wildcard : IsTight wildcard :=
  ⟨⟨'*', rfl, by decide⟩, ⟨'*', rfl, by decide⟩⟩

/-- A minus sign begins a filter without white space. -/
theorem isTight_negated {s : String} (h : IsTight s) : IsTight ("-" ++ s) :=
  .append ⟨'-', rfl, by decide⟩ h.ends

/-- Parentheses leave no white space at the ends. -/
theorem isTight_parenthesized (s : String) : IsTight ("(" ++ s ++ ")") := by
  have hopening : StartsTight "(" := ⟨'(', rfl, by decide⟩
  exact .append (hopening.append s) ⟨')', rfl, by decide⟩

/-- A reference begins with its sign, whatever the field is. -/
theorem startsTight_ref (field : String) : StartsTight ("@" ++ Escape.field field) := by
  have hsign : StartsTight "@" := ⟨'@', rfl, by decide⟩
  exact hsign.append _

section Reference

variable {ref : String} (href : StartsTight ref)
include href

/-- Terms end as their value does, if not with a parenthesis. -/
theorem isTight_terms (value : String) : IsTight (terms ref (trim value)) := by
  rw [terms]
  split
  · exact isTight_wildcard
  · next hvalue =>
    dsimp only
    split
    · exact .append ((href.append _).append _) ⟨')', rfl, by decide⟩
    · have hends := endsTight_trim (Bool.eq_false_iff.mpr hvalue)
      exact .append (href.append _) hends.escape

/-- A tag set ends in a brace, or is the wildcard. -/
theorem isTight_tagSet (values : List String) : IsTight (tagSet ref values) := by
  rw [tagSet]
  split
  · exact isTight_wildcard
  · exact .append ((href.append _).append _) ⟨'\x7d', rfl, by decide⟩

/-- A range of numbers ends in a bracket. -/
theorem isTight_numericRange (min max : Double) (inclusive : Inclusive) :
    IsTight (numericRange ref min max inclusive) :=
  .append ((((href.append _).append _).append _).append _) ⟨']', rfl, by decide⟩

/-- A comparison ends in a bracket, with a minus sign before it or without. -/
theorem isTight_comparisonRange (c : Comparison) (x : Double) :
    IsTight (comparisonRange ref c x) := by
  have hrange := isTight_numericRange href
  cases c with
  | ne => exact isTight_negated (hrange x x .both)
  | eq => exact hrange x x .both
  | gt => exact hrange _ _ _
  | gte => exact hrange _ _ _
  | lt => exact hrange _ _ _
  | lte => exact hrange _ _ _

/-- A circle ends in a bracket. -/
theorem isTight_circle {lon lat radius : Double} {unit : GeoUnit} {written : String}
    (h : circle ref lon lat radius unit = .ok written) : IsTight written := by
  obtain ⟨-, -, h⟩ := bind_eq_ok.mp h
  split at h
  · cases h
    exact .append ((((((((href.append _).append _).append _).append _).append _).append _).append
      _).append _) ⟨']', rfl, by decide⟩
  · cases h

end Reference

/-- A text filter ends in its value, which was trimmed before it was escaped. -/
theorem isTight_build_text {field value : String} {t : Filter}
    (h : Filter.text field value = .ok t) : IsTight t.build := by
  have h := fieldRef_bind_eq_ok h
  cases h
  exact isTight_terms (startsTight_ref field) value

/-- A tag filter ends in its set. -/
theorem isTight_build_tag {field : String} {values : List String} {t : Filter}
    (h : Filter.tag field values = .ok t) : IsTight t.build := by
  have h := fieldRef_bind_eq_ok h
  cases h
  exact isTight_tagSet (startsTight_ref field) values

/-- A leaf whose value cannot leave it is tight. -/
theorem isTight_build_of_made {field : String} {t : Filter} (h : Made field t) :
    IsTight t.build := by
  have href := startsTight_ref field
  cases h with
  | text h => exact isTight_build_text h
  | textNot h =>
    obtain ⟨inner, hinner, h⟩ := bind_eq_ok.mp h
    cases h
    exact isTight_negated (isTight_build_text hinner)
  | exact h =>
    have h := fieldRef_bind_eq_ok h
    obtain ⟨phrase, -, h⟩ := bind_eq_ok.mp h
    cases h
    exact .append ((href.append _).append _) ⟨'"', rfl, by decide⟩
  | tag h => exact isTight_build_tag h
  | tagNot h =>
    obtain ⟨inner, hinner, h⟩ := bind_eq_ok.mp h
    cases h
    exact isTight_negated (isTight_build_tag hinner)
  | @compare c x t h =>
    have h := fieldRef_bind_eq_ok h
    obtain ⟨x, -, h⟩ := bind_eq_ok.mp h
    cases h
    exact isTight_comparisonRange href c x
  | @between min max inclusive t h =>
    have h := fieldRef_bind_eq_ok h
    obtain ⟨min, -, h⟩ := bind_eq_ok.mp h
    obtain ⟨max, -, h⟩ := bind_eq_ok.mp h
    split at h
    · cases h
    · cases h
      exact isTight_numericRange href min max inclusive
  | withinRadius h =>
    have h := fieldRef_bind_eq_ok h
    obtain ⟨written, hwritten, h⟩ := bind_eq_ok.mp h
    cases h
    exact isTight_circle href hwritten
  | outsideRadius h =>
    have h := fieldRef_bind_eq_ok h
    obtain ⟨written, hwritten, h⟩ := bind_eq_ok.mp h
    cases h
    exact isTight_negated (isTight_circle href hwritten)
  | withinBox h =>
    have h := fieldRef_bind_eq_ok h
    obtain ⟨-, -, h⟩ := bind_eq_ok.mp h
    obtain ⟨-, -, h⟩ := bind_eq_ok.mp h
    split at h
    · cases h
    · cases h
      exact .append ((href.append _).append _) ⟨']', rfl, by decide⟩

/-! ## Trees -/

/-- A tree whose leaves were made from fields and values, none of them in the
engine's own syntax. -/
inductive Composed : Filter → Prop
  | made {field : String} {t : Filter} : Made field t → Composed t
  | startsWith {field beginning : String} {t : Filter} :
    Filter.startsWith field beginning = .ok t → Composed t
  | fuzzy {field term : String} {t : Filter} : Filter.fuzzy field term = .ok t → Composed t
  | pattern {field pattern : String} {t : Filter} :
    Filter.pattern field pattern = .ok t → Composed t
  | matchAll : Composed matchAll
  | all {operands : List Filter} : (∀ operand ∈ operands, Composed operand) →
    Composed (all operands)
  | any {operands : List Filter} : (∀ operand ∈ operands, Composed operand) →
    Composed (any operands)
  | not {operand : Filter} : Composed operand → Composed (not operand)

/-- A conjunction is one of its operands, if it is neither everything nor in
parentheses. -/
theorem isTight_joinAll {parts : List String} (h : ∀ part ∈ parts, IsTight part) :
    IsTight (joinAll parts) := by
  rw [joinAll]
  split
  · exact isTight_wildcard
  · next part hkept =>
    have hmem : part ∈ parts.filter (· != wildcard) := hkept ▸ List.mem_singleton_self part
    exact h part (List.mem_of_mem_filter hmem)
  · exact isTight_parenthesized _

/-- **Trees are tight**, however they are composed. -/
theorem isTight_build_of_composed {t : Filter} (h : Composed t) : IsTight t.build := by
  induction h with
  | made h => exact isTight_build_of_made h
  | @startsWith field beginning t h =>
    have h := fieldRef_bind_eq_ok h
    obtain ⟨beginning, -, h⟩ := bind_eq_ok.mp h
    cases h
    exact .append (((startsTight_ref field).append _).append _) ⟨'*', rfl, by decide⟩
  | @fuzzy field term t h =>
    have h := fieldRef_bind_eq_ok h
    obtain ⟨term, -, h⟩ := bind_eq_ok.mp h
    cases h
    exact .append (((startsTight_ref field).append _).append _) ⟨'%', rfl, by decide⟩
  | @pattern field pattern t h =>
    have h := fieldRef_bind_eq_ok h
    obtain ⟨pattern, -, h⟩ := bind_eq_ok.mp h
    cases h
    have hquote : EndsTight "'" := ⟨'\'', rfl, by decide⟩
    exact .append ((startsTight_ref field).append _) (hquote.append _)
  | matchAll => exact isTight_wildcard
  | all _ ih =>
    rw [build, buildEach_eq_map]
    exact isTight_joinAll (List.forall_mem_map.mpr ih)
  | any => exact isTight_parenthesized _
  | not _ ih => exact isTight_negated ih

end Filter

/-! ## Fragments -/

/-- A tight fragment is taken as it is. -/
theorem Restriction.build_raw {fragment : String} (h : Text.IsTight fragment) :
    (raw fragment).build = fragment := by
  obtain ⟨hblank, htrim⟩ := h.trim_eq
  rw [build, hblank, htrim]
  rfl

/-- A leaf in the engine's own syntax can have white space that a fragment loses. -/
example : let t : Filter := .leaf ⟨.custom, "title", "@title:wide "⟩
    (Restriction.raw t.build).build ≠ (Restriction.tree t).build := by
  decide

end SearchQuery
