import SearchQuery.Filter.Tag
import SearchQuery.Proofs.Accepted
import SearchQuery.Proofs.Syntax.Alternatives

/-!
# Tag sets are read back

A condition on tags lists them between braces, with a bar from one to the
next. A reader of the set goes by signs: it ends at the first open brace that
closes, its open bars cut it into parts, and a part without its backslashes is
a tag.

## What is proved

`Filter.tag_reads_back` — for every field that has a name and every list of
tags: the condition is made, and it is everything if all tags are blank;
otherwise a reader of the set finds the tags that are not blank, in their
order, as often as they were given, and without the white space around them.

All that a tag leaves open is neither special nor the plain space. So the bars
between the tags are the only ones that cut (`Syntax.isTagSetOf_intercalate`),
and no tag closes the set.
-/

namespace SearchQuery

namespace Syntax

open SearchQuery.Escape

/-! ## Sets -/

/-- What a set of tags carries between its braces. -/
structure IsTagSetOf (tags : List (List Char)) (body : List Char) : Prop where
  /-- The bars between the tags are all that it leaves open of the syntax. -/
  eq_bar_of_isMark : ∀ sign ∈ signs body, sign.IsMark → sign = .opened '|'
  /-- It leaves no plain space open. -/
  ne_space : ∀ sign ∈ signs body, sign ≠ .opened ' '
  /-- It ends at the first open brace that closes, whatever comes after it. -/
  takeWhile_signs : ∀ rest, (signs (body ++ '}' :: rest)).takeWhile (· ≠ .opened '}') = signs body
  /-- The parts between its open bars, without their backslashes, are the tags. -/
  map_splitOn : ((signs body).splitOn (.opened '|')).map (List.map Sign.char) = tags

/-- The bar between two tags is open. -/
theorem signs_bar_append (rest : List Char) :
    signs (['|'] ++ rest) = ['|'].map Sign.opened ++ signs rest := rfl

/-- No sign of a tag is an open character that tags escape. -/
theorem ne_opened_of_mem_tag {tag : List Char} {c : Char} (hc : isTagSpecial c = true) :
    ∀ sign ∈ tag.map (Sign.ofChar isTagSpecial), sign ≠ .opened c := by
  rintro sign hsign rfl
  have hescaped : false = isTagSpecial c := Sign.escaped_of_mem_map hsign
  rw [hc] at hescaped
  cases hescaped

/-- **Tags that are escaped and joined are read back**, one at least. -/
theorem isTagSetOf_intercalate {tags : List (List Char)} (h : tags ≠ []) :
    IsTagSetOf tags (['|'].intercalate (tags.map (escapeChars isTagSpecial))) := by
  have hsigns (rest : List Char) :
      signs (['|'].intercalate (tags.map (escapeChars isTagSpecial)) ++ rest)
        = [Sign.opened '|'].intercalate (tags.map (List.map (Sign.ofChar isTagSpecial)))
          ++ signs rest :=
    signs_intercalate_append rfl signs_bar_append tags rest
  have hbody : signs (['|'].intercalate (tags.map (escapeChars isTagSpecial)))
      = [Sign.opened '|'].intercalate (tags.map (List.map (Sign.ofChar isTagSpecial))) := by
    have hnil := hsigns []
    rwa [List.append_nil, signs, List.append_nil] at hnil
  have hparts {c : Char} (hc : isTagSpecial c = true) :
      ∀ part ∈ tags.map (List.map (Sign.ofChar isTagSpecial)), ∀ sign ∈ part,
        sign ≠ .opened c := by
    intro part hpart
    obtain ⟨tag, -, rfl⟩ := List.mem_map.mp hpart
    exact ne_opened_of_mem_tag hc
  -- what tags escape is open nowhere in the set, unless it is the bar
  have hopen {c : Char} (hc : isTagSpecial c = true) (hbar : c ≠ '|') :
      ∀ sign ∈ [Sign.opened '|'].intercalate (tags.map (List.map (Sign.ofChar isTagSpecial))),
        sign ≠ .opened c := by
    refine forall_mem_intercalate ?_ (hparts hc)
    intro sign hsign
    rw [List.mem_singleton.mp hsign]
    exact fun heq => hbar (congrArg Sign.char heq).symm
  refine ⟨?_, ?_, ?_, ?_⟩
  · intro sign hsign hmark
    rw [hbody] at hsign
    obtain ⟨hspecial, hescaped⟩ := hmark
    obtain ⟨c, escaped⟩ := sign
    obtain rfl : escaped = false := hescaped
    by_contra hbar
    have htag : isTagSpecial c = true := Bool.or_eq_true_iff.mpr (.inl hspecial)
    exact hopen htag (fun hc => hbar (congrArg Sign.opened hc)) _ hsign rfl
  · rw [hbody]
    exact hopen (by decide) (by decide)
  · intro rest
    rw [hsigns, hbody, signs_cons (by decide)]
    exact takeWhile_ne_append_cons (hopen (by decide) (by decide)) _
  · have hsplit : ([Sign.opened '|'].intercalate
        (tags.map (List.map (Sign.ofChar isTagSpecial)))).splitOn (.opened '|')
          = tags.map (List.map (Sign.ofChar isTagSpecial)) := by
      refine List.splitOn_intercalate _ ?_ (by simpa using h)
      intro part hpart hbar
      exact hparts (c := '|') (by decide) part hpart _ hbar rfl
    have hchar (tag : List Char) : (tag.map (Sign.ofChar isTagSpecial)).map Sign.char = tag :=
      List.map_map.trans (List.map_id tag)
    rw [hbody, hsplit, List.map_map]
    exact (List.map_congr_left fun tag _ => hchar tag).trans (List.map_id tags)

end Syntax

/-! ## Conditions on tags -/

namespace Filter

open SearchQuery.Syntax

/-- The tags of a condition are those that are not blank, trimmed. -/
theorem tagValues_eq (values : List String) :
    tagValues values = (values.filter fun value => !Text.isBlank value).map Text.trim := by
  rw [tagValues, List.filter_map]
  refine congrArg (List.map Text.trim) (List.filter_congr fun value _ => ?_)
  rw [Function.comp_apply, Text.isEmpty_trim]

theorem tagValues_eq_nil {values : List String} :
    tagValues values = [] ↔ ∀ value ∈ values, Text.isBlank value = true := by
  rw [tagValues_eq, List.map_eq_nil_iff, List.filter_eq_nil_iff]
  simp only [Bool.not_eq_true', Bool.not_eq_false]

/-- A list of blank tags asks for nothing. -/
theorem tagSet_eq_wildcard {ref : String} {values : List String}
    (h : ∀ value ∈ values, Text.isBlank value = true) : tagSet ref values = wildcard := by
  rw [tagSet, tagValues_eq_nil.mpr h]

/-- Any other list is a set of its tags. -/
theorem exists_tagSet_eq {ref : String} {values : List String}
    (h : ∃ value ∈ values, Text.isBlank value = false) :
    ∃ body : String, tagSet ref values = ref ++ ":\x7b" ++ body ++ "\x7d" ∧
      IsTagSetOf ((tagValues values).map String.toList) body.toList := by
  have hne : tagValues values ≠ [] := by
    intro hnil
    obtain ⟨value, hvalue, hblank⟩ := h
    rw [tagValues_eq_nil.mp hnil value hvalue] at hblank
    cases hblank
  refine ⟨"|".intercalate ((tagValues values).map Escape.tag), ?_, ?_⟩
  · rw [tagSet]
    split
    · next hnil => exact absurd hnil hne
    · rfl
  · have hbody : ("|".intercalate ((tagValues values).map Escape.tag)).toList
        = ['|'].intercalate
          (((tagValues values).map String.toList).map (Escape.escapeChars Escape.isTagSpecial)) := by
      rw [String.toList_intercalate, List.map_map, List.map_map]
      refine congrArg (List.intercalate ['|']) (List.map_congr_left fun value _ => ?_)
      exact Escape.toList_tag value
    rw [hbody]
    exact isTagSetOf_intercalate (by simpa using hne)

/-- **Tags are read back**, for every field that has a name and every list. -/
theorem tag_reads_back (field : String) (hfield : Text.isBlank field = false)
    (values : List String) :
    ∃ expression : String,
      tag field values = .ok (leaf ⟨.tag, field, expression⟩) ∧
      tagNot field values = .ok (.not (leaf ⟨.tag, field, expression⟩)) ∧
      ((∀ value ∈ values, Text.isBlank value = true) → expression = wildcard) ∧
      ((∃ value ∈ values, Text.isBlank value = false) →
        ∃ body : String,
          expression = "@" ++ Escape.field field ++ ":\x7b" ++ body ++ "\x7d" ∧
          IsTagSetOf (((values.filter fun value => !Text.isBlank value).map Text.trim).map
            String.toList) body.toList) := by
  have htag : tag field values
      = .ok (leaf ⟨.tag, field, tagSet ("@" ++ Escape.field field) values⟩) := by
    rw [tag, fieldRef_eq_ok hfield]
    rfl
  refine ⟨_, htag, ?_, tagSet_eq_wildcard, ?_⟩
  · rw [tagNot, htag]
    rfl
  · rw [← tagValues_eq]
    exact exists_tagSet_eq

/-- Tags with a bar, a brace and a backslash in them, one given twice, and blank
ones between them. -/
theorem tag_reads_back_tricky :
    let values := ["a|b", " ", "c\x7d\\ ", "", "a|b"]
    Text.isBlank "kind" = false ∧ (∃ value ∈ values, Text.isBlank value = false) ∧
      ∃ body : String,
        tag "kind" values
          = .ok (leaf ⟨.tag, "kind", "@" ++ Escape.field "kind" ++ ":\x7b" ++ body ++ "\x7d"⟩) ∧
        IsTagSetOf (["a|b", "c\x7d\\", "a|b"].map String.toList) body.toList := by
  intro values
  have hfield : Text.isBlank "kind" = false := by decide
  have hsome : ∃ value ∈ values, Text.isBlank value = false :=
    ⟨"a|b", List.mem_cons_self, by decide⟩
  obtain ⟨expression, htag, -, -, hset⟩ := tag_reads_back "kind" hfield values
  obtain ⟨body, rfl, hbody⟩ := hset hsome
  have htags : ((values.filter fun value => !Text.isBlank value).map Text.trim)
      = ["a|b", "c\x7d\\", "a|b"] := by decide
  rw [htags] at hbody
  exact ⟨hfield, hsome, body, htag, hbody⟩

end Filter

end SearchQuery
