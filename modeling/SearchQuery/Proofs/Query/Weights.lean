import Mathlib.Data.List.Induction
import SearchQuery.Proofs.Binary.Integer
import SearchQuery.Proofs.Binary.Order
import SearchQuery.Proofs.Query.Clauses
import SearchQuery.Proofs.Query.Overriding
import SearchQuery.Proofs.Sort

/-!
# Weighted fields

The fields of a full-text query are collected one call after the other. A call
mentions a field with a weight: a new field goes behind the others, and one that
is there keeps its place and takes the new weight.

## What is proved

`fields_are_ordered_map` — after any calls the fields are the names mentioned,
each once, in the order in which they were mentioned first, with the weights
that they were mentioned with last. What one mention does to that is a step
(`IsOrderedMap.put`), and a run of calls follows by induction on the mentions
(`isOrderedMap_gathered`).

Two things are read off it. A query is written with one clause for each name, and
only a weight that is not one is written. And a weight is refused only if it is
the last one of its name, since the check sees no other.
-/

namespace SearchQuery.Query

/-! ## Mentions of fields -/

namespace WeightedField

/-- The weight that a field was mentioned with last. -/
def lastWeight (mentions : List WeightedField) (name : String) : Option Double :=
  ((mentions.filter (·.field = name)).getLast?).map (·.weight)

/-- The fields that mentions leave, one after the other. -/
def gathered (mentions : List WeightedField) : List WeightedField :=
  mentions.foldl (fun fields mention => put mention.field mention.weight fields) []

/-- The fields are the names mentioned, each once, in the order of their first
mentions and with the weights of their last. -/
structure IsOrderedMap (fields mentions : List WeightedField) : Prop where
  nodup : (fields.map (·.field)).Nodup
  mem_iff : ∀ name, name ∈ fields.map (·.field) ↔ name ∈ mentions.map (·.field)
  ordered : (fields.map (·.field)).Pairwise fun first second =>
    (mentions.map (·.field)).idxOf first < (mentions.map (·.field)).idxOf second
  weights : ∀ f ∈ fields, lastWeight mentions f.field = some f.weight

/-- One more mention of a name has its last weight. -/
theorem lastWeight_concat (mentions : List WeightedField) (mention : WeightedField)
    (name : String) :
    lastWeight (mentions ++ [mention]) name
      = if mention.field = name then some mention.weight else lastWeight mentions name := by
  rw [lastWeight, List.filter_append]
  split
  · next h => simp [h]
  · next h => simp [h, lastWeight]

/-- A new name goes behind the others. -/
theorem names_put (name : String) (weight : Double) (fields : List WeightedField) :
    (put name weight fields).map (·.field)
      = if name ∈ fields.map (·.field) then fields.map (·.field)
        else fields.map (·.field) ++ [name] := by
  induction fields with
  | nil => simp [put]
  | cons first rest ih =>
    by_cases hfirst : first.field = name
    · simp [put, hfirst]
    · rw [put, if_neg (by simpa using hfirst), List.map_cons, ih]
      by_cases hrest : name ∈ rest.map (·.field)
      · simp [hrest]
      · simp [hrest, Ne.symm hfirst]

/-- What a mention leaves of fields with distinct names: itself, and those of
other names. -/
theorem eq_or_mem_of_mem_put {name : String} {weight : Double} {fields : List WeightedField}
    (hnodup : (fields.map (·.field)).Nodup) {f : WeightedField} (h : f ∈ put name weight fields) :
    f = ⟨name, weight⟩ ∨ f ∈ fields ∧ f.field ≠ name := by
  induction fields with
  | nil => exact .inl (List.mem_singleton.mp h)
  | cons first rest ih =>
    rw [List.map_cons, List.nodup_cons] at hnodup
    by_cases hfirst : first.field = name
    · rw [put, if_pos (beq_iff_eq.mpr hfirst)] at h
      obtain rfl | hrest := List.mem_cons.mp h
      · exact .inl rfl
      · refine .inr ⟨List.mem_cons_of_mem _ hrest, ?_⟩
        rintro rfl
        exact hnodup.1 (hfirst ▸ List.mem_map.mpr ⟨f, hrest, rfl⟩)
    · rw [put, if_neg (by simpa using hfirst)] at h
      obtain rfl | hrest := List.mem_cons.mp h
      · exact .inr ⟨List.mem_cons_self, hfirst⟩
      · obtain hnew | ⟨hmem, hne⟩ := ih hnodup.2 hrest
        · exact .inl hnew
        · exact .inr ⟨List.mem_cons_of_mem _ hmem, hne⟩

/-- One more mention, put among the fields. -/
theorem IsOrderedMap.put {fields mentions : List WeightedField} (h : IsOrderedMap fields mentions)
    (mention : WeightedField) :
    IsOrderedMap (put mention.field mention.weight fields) (mentions ++ [mention]) := by
  -- the first mention of a name is where it was
  have hkept : ∀ name ∈ fields.map (·.field),
      ((mentions ++ [mention]).map (·.field)).idxOf name
        = (mentions.map (·.field)).idxOf name := by
    intro name hname
    rw [List.map_append, List.idxOf_append_of_mem ((h.mem_iff name).mp hname)]
  have hordered : (fields.map (·.field)).Pairwise fun first second =>
      ((mentions ++ [mention]).map (·.field)).idxOf first
        < ((mentions ++ [mention]).map (·.field)).idxOf second := by
    refine h.ordered.imp_of_mem ?_
    intro first second hfirst hsecond hlt
    rwa [hkept first hfirst, hkept second hsecond]
  have hweights : ∀ f ∈ WeightedField.put mention.field mention.weight fields,
      lastWeight (mentions ++ [mention]) f.field = some f.weight := by
    intro f hf
    rw [lastWeight_concat]
    obtain rfl | ⟨hmem, hne⟩ := eq_or_mem_of_mem_put h.nodup hf
    · exact if_pos rfl
    · rw [if_neg hne.symm]
      exact h.weights f hmem
  by_cases hname : mention.field ∈ fields.map (·.field)
  · have hnames := (names_put mention.field mention.weight fields).trans (if_pos hname)
    refine ⟨hnames ▸ h.nodup, fun name => ?_, hnames ▸ hordered, hweights⟩
    rw [hnames, h.mem_iff, List.map_append, List.mem_append, List.map_singleton,
      List.mem_singleton, or_iff_left_of_imp]
    rintro rfl
    exact (h.mem_iff _).mp hname
  · have hnames := (names_put mention.field mention.weight fields).trans (if_neg hname)
    refine ⟨?_, fun name => ?_, ?_, hweights⟩
    · rw [hnames, ← List.concat_eq_append]
      exact h.nodup.concat hname
    · rw [hnames, List.mem_append, h.mem_iff, List.map_append, List.mem_append,
        List.map_singleton]
    · rw [hnames, List.pairwise_append]
      refine ⟨hordered, List.pairwise_singleton _ _, ?_⟩
      intro first hfirst second hsecond
      rw [List.mem_singleton] at hsecond
      subst hsecond
      have hlt := List.idxOf_lt_length_of_mem ((h.mem_iff first).mp hfirst)
      rw [hkept first hfirst, List.map_append,
        List.idxOf_append_of_notMem ((h.mem_iff _).not.mp hname)]
      omega

/-- **The fields that mentions leave are an ordered map of them.** -/
theorem isOrderedMap_gathered (mentions : List WeightedField) :
    IsOrderedMap (gathered mentions) mentions := by
  induction mentions using List.reverseRecOn with
  | nil => exact ⟨List.nodup_nil, fun _ => Iff.rfl, List.Pairwise.nil, List.forall_mem_nil _⟩
  | append_singleton mentions mention ih =>
    rw [gathered, List.foldl_append]
    exact ih.put mention

/-! ## Weights that are refused -/

/-- A field is refused for a weight if it has a name and the weight is none. -/
theorem check_eq_error_weight {f : WeightedField} {name : String} {weight : Double} :
    f.check = .error (.outOfRange "field weight" (.fieldWeight name weight)) ↔
      f = ⟨name, weight⟩ ∧ Text.isBlank name = false ∧ ¬IsAccepted weight := by
  obtain ⟨field, held⟩ := f
  rw [check, requireName, ← isAccepted_iff]
  cases hname : Text.isBlank field with
  | true =>
    constructor
    · intro h
      cases h
    · rintro ⟨hsame, hnamed, -⟩
      cases hsame
      rw [hname] at hnamed
      cases hnamed
  | false =>
    cases hheld : held.isFinite && held.isPositive with
    | true =>
      constructor
      · intro h
        cases h
      · rintro ⟨hsame, -, hrefused⟩
        cases hsame
        exact absurd hheld hrefused
    | false =>
      constructor
      · intro h
        cases h
        exact ⟨rfl, hname, by rw [hheld]; exact Bool.false_ne_true⟩
      · rintro ⟨hsame, -, -⟩
        cases hsame
        rfl

/-- Fields are refused for the first one that is. -/
theorem checkAll_eq_error {fields : List WeightedField} {cause : Invalid} :
    checkAll fields = .error cause ↔ ∃ before f after, fields = before ++ f :: after ∧
      (∀ g ∈ before, g.check = .ok ()) ∧ f.check = .error cause := by
  induction fields with
  | nil =>
    refine iff_of_false nofun ?_
    rintro ⟨before, f, after, h, -⟩
    exact absurd h (by simp)
  | cons first rest ih =>
    rw [checkAll, bind_eq_error]
    constructor
    · rintro (hfirst | ⟨⟨⟩, hfirst, hrest⟩)
      · exact ⟨[], first, rest, rfl, List.forall_mem_nil _, hfirst⟩
      · obtain ⟨before, f, after, rfl, hbefore, hf⟩ := ih.mp hrest
        exact ⟨first :: before, f, after, rfl, List.forall_mem_cons.mpr ⟨hfirst, hbefore⟩, hf⟩
    · rintro ⟨before, f, after, hsplit, hbefore, hf⟩
      cases before with
      | nil =>
        cases hsplit
        exact .inl hf
      | cons _ before =>
        cases hsplit
        obtain ⟨hfirst, hbefore⟩ := List.forall_mem_cons.mp hbefore
        exact .inr ⟨(), hfirst, ih.mpr ⟨before, f, after, rfl, hbefore, hf⟩⟩

/-! ## Clauses -/

/-- The clause of a field: the weight stands behind it unless it is one. -/
def clauseText (words : List String) (f : WeightedField) : String :=
  "@" ++ Escape.field f.field ++ ":(" ++ Tokens.joinWords words ++ ")" ++
    if f.weight.toRat = 1 then "" else " => \x7b $weight: " ++ Double.literal f.weight ++ " \x7d"

/-- A number that is finite is compared with one by its value. -/
theorem eq_plainWeight_iff {x : Double} (hx : x.isFinite = true) :
    x.eq plainWeight = true ↔ x.toRat = 1 := by
  obtain ⟨hone, hvalue⟩ := Binary.toRat_ofInt Format.double_holdsIntegers (n := 1) (by decide)
  have hinfinity : 0 < Format.double.infinity := by decide
  rw [plainWeight, Binary.eq_iff_value_eq hinfinity (Binary.isNaN_and_isInfinite_of_isFinite hx).1
    (Binary.isNaN_and_isInfinite_of_isFinite hone).1, Binary.value_of_isFinite hx,
    Binary.value_of_isFinite hone, hvalue, Int.cast_one, WithBot.coe_inj, WithTop.coe_inj]

theorem render_eq {f : WeightedField} (hf : f.weight.isFinite = true) (words : List String) :
    f.render words = f.clauseText words := by
  rw [render, clauseText, TextClause.render]
  simp only [eq_plainWeight_iff hf]
  split
  · rw [String.append_empty]
  · simp only [String.append_assoc]

end WeightedField

/-! ## Refused orders -/

/-- The order of results is refused for a word or a name. -/
theorem Results.sortKey_ne_outOfRange {spec : Option SortSpec} {byDefault : Option SortKey}
    {setting : String} {fault : Fault} :
    Results.sortKey spec byDefault ≠ .error (.outOfRange setting fault) := by
  intro h
  cases spec with
  | none => cases h
  | some spec =>
    have hrefused := SortSpec.normalize_eq_error.mp (bind_pure_eq_error.mp h)
    cases hrefused

/-- No check of the results is one of a field's weight. -/
theorem Results.check_ne_fieldWeight {results : Results} {byDefault : Option SortKey}
    {setting name : String} {weight : Double} :
    results.check byDefault ≠ .error (.outOfRange setting (.fieldWeight name weight)) := by
  intro h
  rw [Results.check] at h
  obtain h | ⟨⟨⟩, -, h⟩ := bind_eq_error.mp h
  · unfold requirePositive at h
    split at h <;> cases h
  obtain h | ⟨⟨⟩, -, h⟩ := bind_eq_error.mp h
  · unfold requireDialect at h
    split at h <;> cases h
  obtain h | ⟨⟨⟩, -, h⟩ := bind_eq_error.mp h
  · unfold requireReturnFields at h
    split at h <;> cases h
  exact sortKey_ne_outOfRange (bind_pure_eq_error.mp h)

namespace FullText

open WeightedField (IsOrderedMap lastWeight gathered IsAccepted)

/-! ## Calls -/

/-- The field that a call mentions. -/
def Setting.mention? : Setting → Option WeightedField
  | .field name weight => some ⟨name, weight⟩
  | _ => none

/-- The fields that calls mention, in order. -/
def mentions (calls : List Setting) : List WeightedField := calls.filterMap Setting.mention?

/-- What calls leave of no fields is what their mentions leave. -/
theorem fields_run_eq_gathered (text : String) (calls : List Setting) :
    (builder.run { text } calls).fields = gathered (mentions calls) := by
  rw [fields_run, mentions, gathered, List.foldl_filterMap]
  congr 1
  funext fields call
  cases call <;> rfl

/-- A single clause, or several as alternatives. -/
def asAlternatives : List String → String
  | [clause] => clause
  | clauses => "(" ++ " | ".intercalate clauses ++ ")"

/-- A query string is one clause for each field, and what it is restricted
by. -/
theorem queryString_eq_asAlternatives {query : FullText}
    (hfields : ∀ f ∈ query.fields, f.weight.isFinite = true) :
    query.queryString
      = asAlternatives (query.fields.map (WeightedField.clauseText query.words))
        ++ joined query.restriction := by
  have hclauses : query.clauses
      = asAlternatives (query.fields.map (WeightedField.clauseText query.words)) := by
    rw [← List.map_congr_left fun f hf => WeightedField.render_eq (hfields f hf) query.words]
    rfl
  rw [queryString, hclauses, joined]
  split
  · rw [String.append_empty]
  · rw [String.append_assoc]

/-! ## Refused weights -/

/-- A draft is refused for a weight where its fields are. -/
theorem Draft.build_eq_error_weight {draft : Draft} {name : String} {weight : Double} :
    draft.build = .error (.outOfRange "field weight" (.fieldWeight name weight)) ↔
      WeightedField.checkAll draft.fields
        = .error (.outOfRange "field weight" (.fieldWeight name weight)) := by
  constructor
  · intro h
    rw [build] at h
    split at h
    · cases h
    obtain h | ⟨⟨⟩, -, h⟩ := bind_eq_error.mp h
    · exact h
    obtain h | ⟨⟨⟩, -, h⟩ := bind_eq_error.mp h
    · unfold requireName at h
      split at h <;> cases h
    obtain h | ⟨words, -, h⟩ := bind_eq_error.mp h
    · unfold TextClause.wordsOf at h
      dsimp only at h
      split at h <;> cases h
    exact absurd (bind_pure_eq_error.mp h) Results.check_ne_fieldWeight
  · intro h
    have hsome : ¬draft.fields.isEmpty = true := by
      intro hempty
      rw [List.isEmpty_iff.mp hempty] at h
      cases h
    rw [build, if_neg hsome, h]
    rfl

/-- Of the names mentioned, this is the first that a build refuses, and it is
refused for the weight that it was mentioned with last. -/
structure IsFirstRefused (mentions : List WeightedField) (name : String) (weight : Double) :
    Prop where
  last : lastWeight mentions name = some weight
  not_accepted : ¬IsAccepted weight
  named : Text.isBlank name = false
  earlier : ∀ other ∈ mentions.map (·.field),
    (mentions.map (·.field)).idxOf other < (mentions.map (·.field)).idxOf name →
      Text.isBlank other = false ∧ ∀ held ∈ lastWeight mentions other, IsAccepted held

/-- A name that has a last weight is mentioned. -/
theorem mem_of_lastWeight {mentions : List WeightedField} {name : String} {weight : Double}
    (h : lastWeight mentions name = some weight) : name ∈ mentions.map (·.field) := by
  obtain ⟨mention, hmention, -⟩ := Option.map_eq_some_iff.mp h
  obtain ⟨hmem, hname⟩ := List.mem_filter.mp (List.mem_of_getLast? hmention)
  exact List.mem_map.mpr ⟨mention, hmem, of_decide_eq_true hname⟩

/-- Fields are refused for the weight of the first name that is refused, in the
order of the first mentions. -/
theorem checkAll_eq_error_weight {fields mentions : List WeightedField}
    (h : IsOrderedMap fields mentions) {name : String} {weight : Double} :
    WeightedField.checkAll fields = .error (.outOfRange "field weight" (.fieldWeight name weight)) ↔
      IsFirstRefused mentions name weight := by
  have hordered := h.ordered
  rw [WeightedField.checkAll_eq_error]
  constructor
  · rintro ⟨before, f, after, rfl, hbefore, hf⟩
    obtain ⟨rfl, hnamed, hrefused⟩ := WeightedField.check_eq_error_weight.mp hf
    refine ⟨h.weights ⟨name, weight⟩ (List.mem_append_right _ List.mem_cons_self), hrefused,
      hnamed, ?_⟩
    intro other hother hlt
    obtain ⟨g, hg, rfl⟩ := List.mem_map.mp ((h.mem_iff other).mpr hother)
    rw [List.map_append, List.map_cons, List.pairwise_append, List.pairwise_cons] at hordered
    obtain hg' | hg' := List.mem_append.mp hg
    · obtain ⟨hnamed, haccepted⟩ := WeightedField.check_eq_ok.mp (hbefore g hg')
      refine ⟨hnamed, ?_⟩
      rintro held hheld
      cases (h.weights g hg).symm.trans hheld
      exact haccepted
    · -- what is listed from the field on was not mentioned before it
      obtain rfl | hg' := List.mem_cons.mp hg'
      · exact absurd hlt (lt_irrefl _)
      · exact absurd hlt (hordered.2.1.1 g.field (List.mem_map.mpr ⟨g, hg', rfl⟩)).not_gt
  · rintro ⟨hlast, hrefused, hnamed, hearlier⟩
    obtain ⟨f, hf, rfl⟩ := List.mem_map.mp ((h.mem_iff name).mpr (mem_of_lastWeight hlast))
    cases (h.weights f hf).symm.trans hlast
    obtain ⟨before, after, rfl⟩ := List.append_of_mem hf
    refine ⟨before, f, after, rfl, ?_,
      WeightedField.check_eq_error_weight.mpr ⟨rfl, hnamed, hrefused⟩⟩
    intro g hg
    have hmem : g ∈ before ++ f :: after := List.mem_append_left _ hg
    rw [List.map_append, List.map_cons, List.pairwise_append] at hordered
    have hlt := hordered.2.2 g.field (List.mem_map.mpr ⟨g, hg, rfl⟩) f.field List.mem_cons_self
    have hmentioned := (h.mem_iff g.field).mp (List.mem_map.mpr ⟨g, hmem, rfl⟩)
    obtain ⟨hgnamed, haccepted⟩ := hearlier g.field hmentioned hlt
    exact WeightedField.check_eq_ok.mpr ⟨hgnamed, haccepted _ (h.weights g hmem)⟩

/-! ## Whatever is called -/

/-- **The fields are an ordered map.** After any calls each name that was
mentioned is there once, where it was mentioned first and with its last weight.
A query that is built has one clause for each, with the weight unless it is one.
A weight that is no finite number above zero is refused if it is the last of its
name, and names mentioned earlier do not come first with a refusal of their own;
a weight that was replaced is never refused. -/
theorem fields_are_ordered_map (text : String) (calls : List Setting) :
    IsOrderedMap (builder.run { text } calls).fields (mentions calls) ∧
    (∀ query, (builder.run { text } calls).build = .ok query →
      query.fields = (builder.run { text } calls).fields ∧
      (∀ f ∈ query.fields, IsAccepted f.weight) ∧
      query.queryString
        = asAlternatives (query.fields.map (WeightedField.clauseText query.words))
          ++ joined query.restriction) ∧
    ∀ name weight,
      (builder.run { text } calls).build
          = .error (.outOfRange "field weight" (.fieldWeight name weight)) ↔
        IsFirstRefused (mentions calls) name weight := by
  have hmap : IsOrderedMap (builder.run { text } calls).fields (mentions calls) := by
    rw [fields_run_eq_gathered]
    exact WeightedField.isOrderedMap_gathered _
  refine ⟨hmap, ?_, ?_⟩
  · intro query h
    obtain ⟨-, hcheck, -, words, -, options, -, rfl⟩ := Draft.build_eq_ok.mp h
    have haccepted : ∀ f ∈ (builder.run { text } calls).fields, IsAccepted f.weight :=
      fun f hf => (WeightedField.check_eq_ok.mp (WeightedField.checkAll_eq_ok.mp hcheck f hf)).2
    exact ⟨rfl, haccepted, queryString_eq_asAlternatives fun f hf => (haccepted f hf).1⟩
  · intro name weight
    rw [Draft.build_eq_error_weight]
    exact checkAll_eq_error_weight hmap

/-- A title whose weight of zero is replaced, and a body whose last weight is no
number. -/
theorem fields_are_ordered_map_replaced :
    let half : Double := Decimal.toBinary ⟨false, 5, -1⟩
    let noNumber : Double := ⟨false, 9218868437227405313, by decide⟩
    let calls : List Setting := [.field "title" Binary.zero, .field "body" WeightedField.plainWeight,
      .scorer "TFIDF", .field "title" half]
    let more : List Setting := calls ++ [.field "body" noNumber]
    (∃ query, (builder.run { text := "fast" } calls).build = .ok query ∧
      query.queryString
        = asAlternatives (query.fields.map (WeightedField.clauseText query.words))
          ++ joined query.restriction) ∧
    (builder.run { text := "fast" } more).build
      = .error (.outOfRange "field weight" (.fieldWeight "body" noNumber)) ∧
    IsFirstRefused (mentions more) "body" noNumber := by
  intro half noNumber calls more
  have hcheck : WeightedField.checkAll (builder.run { text := "fast" } calls).fields = .ok () := by
    decide +kernel
  have hscorer : requireName "scorer" (builder.run { text := "fast" } calls).scorer = .ok () := by
    decide +kernel
  obtain ⟨words, hwords⟩ : ∃ words, TextClause.wordsOf .none "fast" = .ok words := ⟨_, rfl⟩
  obtain ⟨query, hquery⟩ : ∃ query, (builder.run { text := "fast" } calls).build = .ok query :=
    ⟨_, Draft.build_eq_ok.mpr ⟨Bool.false_ne_true, hcheck, hscorer, words, hwords, _, rfl, rfl⟩⟩
  have hrefused : (builder.run { text := "fast" } more).build
      = .error (.outOfRange "field weight" (.fieldWeight "body" noNumber)) :=
    Draft.build_eq_error_weight.mpr (by decide +kernel)
  exact ⟨⟨query, hquery, ((fields_are_ordered_map "fast" calls).2.1 query hquery).2.2⟩, hrefused,
    ((fields_are_ordered_map "fast" more).2.2 "body" noNumber).mp hrefused⟩

end FullText

end SearchQuery.Query
