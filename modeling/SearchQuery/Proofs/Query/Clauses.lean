import SearchQuery.Proofs.Query.ValidSettings
import SearchQuery.Proofs.Syntax.Alternatives

/-!
# Text clauses

Three kinds of queries search for the words of a text: full text in each of
its fields, a hybrid query in its one field, and a query for nearest
neighbours in the field of its clause. The query string of each is made of
segments that are fixed before the text is known and of clauses that differ
in nothing but their field (`Segment.fill`).

`carriesWords_of_every_kind` says for all three that a clause carries exactly
the words that the text is searched for, and that a draft whose other settings
are valid is accepted exactly when there are such words and refused for its
text exactly when there are none. For each kind it rests on three laws: what
the query string is made of, what a build accepts (`exists_build_iff`), and
that nothing that is checked looks at the text except for its words.
-/

namespace SearchQuery.Query

open SearchQuery.Syntax SearchQuery.Escape

/-! ## Segments of a query string -/

/-- A segment of a query string: a fixed one, or a clause whose list of
alternatives is left out. -/
inductive Segment where
  | fixed (text : String)
  | clause (field : String)

namespace Segment

/-- The segment with a list of alternatives. -/
def fill (list : String) : Segment → List Char
  | fixed text => text.toList
  | clause field => ("@" ++ Escape.field field ++ ":(" ++ list ++ ")").toList

/-- The field of a clause. -/
def field? : Segment → Option String
  | fixed _ => none
  | clause field => some field

end Segment

/-- Groups with a separator from one to the next. -/
theorem flatMap_intercalate {σ τ : Type} (fill : σ → List τ) (separator : σ)
    (groups : List (List σ)) :
    ([separator].intercalate groups).flatMap fill
      = (fill separator).intercalate (groups.map (List.flatMap fill)) := by
  induction groups with
  | nil => rfl
  | cons group groups ih =>
    cases groups with
    | nil => simp only [List.map_cons, List.map_nil, List.intercalate_singleton]
    | cons next groups =>
      rw [List.intercalate_cons_cons, List.flatMap_append, List.flatMap_append, ih]
      simp only [List.map_cons, List.intercalate_cons_cons, List.flatMap_singleton]

/-- A fixed separator adds no clause. -/
theorem filterMap_field?_intercalate (separator : String) (groups : List (List Segment)) :
    ([Segment.fixed separator].intercalate groups).filterMap Segment.field?
      = groups.flatMap (List.filterMap Segment.field?) := by
  induction groups with
  | nil => rfl
  | cons group groups ih =>
    cases groups with
    | nil => rw [List.intercalate_singleton, List.flatMap_singleton]
    | cons next groups =>
      rw [List.intercalate_cons_cons, List.filterMap_append, List.filterMap_append, ih,
        List.flatMap_cons, List.append_assoc]
      rfl

/-! ## Queries that carry words -/

/-- A text, and the words that it is not searched for. -/
structure Asked where
  text : String
  stopwords : Stopwords

/-- The words that are searched for. -/
def Asked.words (asked : Asked) : List (List Char) := asked.stopwords.searched asked.text

/-- A way to make queries of a text, with other settings that are valid or
not, carries the words of the text in clauses on these fields. -/
structure CarriesWords {σ : Type} (valid : Prop) (asked : σ → Asked) (fields : List String)
    (send : σ → Except Invalid String) : Prop where
  /-- The query strings differ in nothing but the list of alternatives, which
  is the same in every clause and carries the words searched for. -/
  fill : ∃ segments : List Segment, segments.filterMap Segment.field? = fields ∧
    ∀ {s sent}, send s = .ok sent → ∃ list : String,
      sent.toList = segments.flatMap (Segment.fill list) ∧ IsListOf (asked s).words list.toList
  /-- Where the other settings are valid, a text is accepted when it has words,
  and where they are not, no text is. -/
  accepted_iff : ∀ s, (∃ sent, send s = .ok sent) ↔ valid ∧ (asked s).words ≠ []
  /-- Where they are valid, a text is refused for having no words exactly when
  it has none. -/
  refused_iff : valid → ∀ s,
    send s = .error (.noTokens (asked s).text) ↔ (asked s).words = []

/-- A query string has a clause on each of these fields, and each carries the
words. -/
def HasClauses (fields : List String) (words : List (List Char)) (sent : String) : Prop :=
  ∃ (segments : List Segment) (list : String), segments.filterMap Segment.field? = fields ∧
    sent.toList = segments.flatMap (Segment.fill list) ∧ IsListOf words list.toList

/-- What is sent of a text that has words, when the other settings are valid. -/
theorem CarriesWords.exists_sent {σ : Type} {valid : Prop} {asked : σ → Asked}
    {fields : List String} {send : σ → Except Invalid String}
    (h : CarriesWords valid asked fields send) (hvalid : valid) {s : σ}
    (hwords : (asked s).words ≠ []) :
    ∃ sent, send s = .ok sent ∧ HasClauses fields (asked s).words sent := by
  obtain ⟨sent, hsent⟩ := (h.accepted_iff s).mpr ⟨hvalid, hwords⟩
  obtain ⟨segments, hfields, hfill⟩ := h.fill
  obtain ⟨list, hstring, hlist⟩ := hfill hsent
  exact ⟨sent, hsent, segments, list, hfields, hstring, hlist⟩

/-- The words of a text as alternatives. -/
theorem toList_joinWords (words : List (List Char)) :
    (Tokens.joinWords (words.map fun word => Escape.text (String.ofList word))).toList
      = separator.intercalate (words.map (escapeChars isSpecial)) := by
  rw [Tokens.joinWords, String.toList_intercalate, List.map_map]
  congr 1
  refine List.map_congr_left fun word _ => ?_
  rw [Function.comp_apply, toList_text, String.toList_ofList]

/-- A single word without anything around it is searched for. -/
theorem words_plain_ne_nil : Asked.words ⟨"x", .none⟩ ≠ [] := by decide +kernel

/-- A kind of query carries words when its query string is made of segments,
a build accepts valid settings with a text that has words, and it looks at the
text for its words alone: any text goes the way of one that was accepted, up
to its words. That one may be any that has words. -/
theorem carriesWords_of_segments {σ α : Type} {valid : Prop} {asked : σ → Asked}
    {fields : List String} (build : σ → Except Invalid α) (queryString : α → String)
    {segments : List Segment} (hfields : segments.filterMap Segment.field? = fields)
    (haccepted : ∀ s, (∃ query, build s = .ok query) ↔ valid ∧ (asked s).words ≠ [])
    (hbuild : ∀ {other query}, build other = .ok query → ∃ make : σ → List String → α,
      (∀ s, build s = (TextClause.wordsOf (asked s).stopwords (asked s).text).map (make s)) ∧
      ∀ s words, (queryString (make s words)).toList
        = segments.flatMap (Segment.fill (Tokens.joinWords words)))
    {plain : σ} (hplain : (asked plain).words ≠ []) :
    CarriesWords valid asked fields fun s => do return queryString (← build s) := by
  -- one accepted text tells what is made of every other
  have hmake {other : σ} {query : α} (h : build other = .ok query) :
      ∃ make : σ → List String → α,
        (∀ s, build s = if (asked s).words = [] then .error (.noTokens (asked s).text)
          else .ok (make s ((asked s).words.map fun word => Escape.text (String.ofList word)))) ∧
        ∀ s words, (queryString (make s words)).toList
          = segments.flatMap (Segment.fill (Tokens.joinWords words)) := by
    obtain ⟨make, hmake, hstring⟩ := hbuild h
    refine ⟨make, fun s => ?_, hstring⟩
    rw [hmake, Stopwords.wordsOf_eq, Asked.words]
    split <;> rfl
  refine ⟨⟨segments, hfields, ?_⟩, ?_, ?_⟩
  · intro s sent h
    obtain ⟨query, hquery, hsent⟩ := bind_eq_ok.mp h
    cases hsent
    obtain ⟨make, hmake, hstring⟩ := hmake hquery
    rw [hmake] at hquery
    split at hquery
    · cases hquery
    · next hwords =>
      cases hquery
      refine ⟨_, hstring s _, ?_⟩
      rw [toList_joinWords]
      exact isListOf_joined hwords
  · intro s
    rw [← haccepted]
    constructor
    · rintro ⟨sent, h⟩
      obtain ⟨query, hquery, -⟩ := bind_eq_ok.mp h
      exact ⟨query, hquery⟩
    · rintro ⟨query, hquery⟩
      exact ⟨_, bind_eq_ok.mpr ⟨query, hquery, rfl⟩⟩
  · intro hvalid s
    obtain ⟨query, hquery⟩ := (haccepted plain).mpr ⟨hvalid, hplain⟩
    obtain ⟨make, hmake, -⟩ := hmake hquery
    rw [bind_pure_eq_error, hmake]
    split
    · next hwords => exact ⟨fun _ => hwords, fun _ => rfl⟩
    · next hwords =>
      constructor
      · intro h
        cases h
      · exact fun h => absurd h hwords

/-- A restriction behind a text, unless every document passes it. -/
def joined (restriction : Restriction) : String :=
  if restriction.isMatchAll then "" else " AND " ++ restriction.build

/-! ## Full text -/

namespace WeightedField

/-- A clause and the weight after it. -/
def segments (f : WeightedField) : List Segment :=
  [.clause f.field, .fixed <|
    if f.weight.eq plainWeight then "" else " => \x7b $weight: " ++ Double.literal f.weight ++ " \x7d"]

/-- A clause with its weight is written in its segments. -/
theorem toList_render (words : List String) (f : WeightedField) :
    (f.render words).toList = f.segments.flatMap (Segment.fill (Tokens.joinWords words)) := by
  unfold render segments
  split <;> simp [Segment.fill, TextClause.render]

end WeightedField

namespace FullText

/-- One clause alone, several as alternatives. -/
def clauseSegments : List WeightedField → List Segment
  | [f] => f.segments
  | fields =>
    .fixed "(" :: ([Segment.fixed " | "].intercalate (fields.map WeightedField.segments)
      ++ [.fixed ")"])

/-- There is one clause for each field, in order. -/
theorem filterMap_field?_clauseSegments (fields : List WeightedField) :
    (clauseSegments fields).filterMap Segment.field? = fields.map WeightedField.field := by
  have hgroups : (fields.map WeightedField.segments).flatMap (List.filterMap Segment.field?)
      = fields.map WeightedField.field := by
    rw [List.flatMap_map]
    exact List.map_eq_flatMap.symm
  unfold clauseSegments
  split
  · rfl
  · simp only [List.filterMap_append, List.filterMap_cons, Segment.field?,
      filterMap_field?_intercalate, hgroups, List.filterMap_nil, List.append_nil]

/-- Groups as alternatives in parentheses, or one group as it is. -/
def alternatives {σ : Type} (opening bar closing : σ) : List (List σ) → List σ
  | [group] => group
  | groups => opening :: ([bar].intercalate groups ++ [closing])

/-- The clauses, when each is known in its parts. -/
theorem toList_clauses_of_parts {σ : Type} (query : FullText) (fill : σ → List Char)
    (opening bar closing : σ) (hopening : fill opening = "(".toList)
    (hbar : fill bar = " | ".toList) (hclosing : fill closing = ")".toList)
    {parts : WeightedField → List σ}
    (hparts : ∀ f, (WeightedField.render query.words f).toList = (parts f).flatMap fill) :
    query.clauses.toList
      = (alternatives opening bar closing (query.fields.map parts)).flatMap fill := by
  have hgroups : (query.fields.map (WeightedField.render query.words)).map String.toList
      = (query.fields.map parts).map (List.flatMap fill) := by
    rw [List.map_map, List.map_map]
    exact List.map_congr_left fun f _ => hparts f
  have hseveral : ("(" ++ " | ".intercalate (query.fields.map (WeightedField.render query.words))
      ++ ")").toList
      = (opening :: ([bar].intercalate (query.fields.map parts) ++ [closing])).flatMap fill := by
    rw [List.flatMap_cons, List.flatMap_append, flatMap_intercalate, ← hgroups,
      List.flatMap_singleton, hopening, hbar, hclosing, String.toList_append,
      String.toList_append, String.toList_intercalate, List.append_assoc]
  unfold clauses
  match hfields : query.fields with
  | [] =>
    rw [hfields] at hseveral
    exact hseveral
  | [f] => exact hparts f
  | f :: g :: fs =>
    rw [hfields] at hseveral
    exact hseveral

/-- The clauses are written in their segments, all with one list. -/
theorem toList_clauses (query : FullText) :
    query.clauses.toList
      = (clauseSegments query.fields).flatMap (Segment.fill (Tokens.joinWords query.words)) := by
  rw [query.toList_clauses_of_parts _ (.fixed "(") (.fixed " | ") (.fixed ")") rfl rfl rfl
    fun f => f.toList_render query.words]
  unfold clauseSegments
  cases query.fields with
  | nil => rfl
  | cons f fs => cases fs <;> rfl

namespace Draft

/-- The draft with another text and other stop words. -/
def asking (draft : Draft) (asked : Asked) : Draft :=
  { draft with text := asked.text, stopwords := asked.stopwords }

/-- The query string of a draft. -/
def send (draft : Draft) : Except Invalid String := do return (← draft.build).compile.query

/-- The clauses and the restriction. -/
def segments (draft : Draft) : List Segment :=
  clauseSegments draft.fields ++ [.fixed (joined draft.restriction)]

theorem filterMap_field?_segments (draft : Draft) :
    draft.segments.filterMap Segment.field? = draft.fields.map WeightedField.field := by
  rw [segments, List.filterMap_append, filterMap_field?_clauseSegments]
  exact List.append_nil _

/-- A draft that is accepted with one text is with any other that has
words. -/
theorem build_asking {draft : Draft} {query : FullText} (h : draft.build = .ok query)
    (asked : Asked) : (draft.asking asked).build =
      (TextClause.wordsOf asked.stopwords asked.text).map fun words =>
        { query with text := asked.text, words } := by
  obtain ⟨hfields, hcheck, hscorer, words, -, options, hoptions, rfl⟩ := build_eq_ok.mp h
  simp only [build, asking, hfields, hcheck, hscorer, hoptions]
  cases TextClause.wordsOf asked.stopwords asked.text with
  | error cause => rfl
  | ok words => rfl

/-- The query string is written in the segments of its draft, whatever the words
are. -/
theorem toList_queryString {draft : Draft} {query : FullText} (h : draft.build = .ok query)
    (words : List String) : (queryString { query with words }).toList
      = draft.segments.flatMap (Segment.fill (Tokens.joinWords words)) := by
  obtain ⟨-, -, -, -, -, options, -, rfl⟩ := build_eq_ok.mp h
  rw [queryString, segments, List.flatMap_append, List.flatMap_singleton, Segment.fill, joined]
  split
  · rw [toList_clauses, String.toList_empty, List.append_nil]
  · rw [String.append_assoc, String.toList_append, toList_clauses]

/-- The text and the stop words are no part of the settings that are valid or
not. -/
theorem hasValidSettings_asking {draft : Draft} {asked : Asked} :
    (draft.asking asked).HasValidSettings ↔ draft.HasValidSettings :=
  ⟨fun h => { h with }, fun h => { h with }⟩

/-- A full-text query carries its words in every field. -/
theorem carriesWords (draft : Draft) :
    CarriesWords draft.HasValidSettings id (draft.fields.map WeightedField.field) fun asked =>
      (draft.asking asked).send := by
  refine carriesWords_of_segments (fun asked => (draft.asking asked).build) (·.compile.query)
    draft.filterMap_field?_segments ?_ ?_ words_plain_ne_nil
  · intro asked
    rw [exists_build_iff, hasValidSettings_asking]
    rfl
  intro other query hquery
  exact ⟨fun asked words => { query with text := asked.text, words },
    @build_asking (draft.asking other) query hquery,
    fun _ => @toList_queryString (draft.asking other) query hquery⟩

end Draft

end FullText

/-! ## Hybrid queries -/

namespace Hybrid.Draft

/-- The draft with another text and other stop words. -/
def asking (draft : Draft) (asked : Asked) : Draft :=
  { draft with text := asked.text, stopwords := asked.stopwords }

/-- The query string of a draft. -/
def send (draft : Draft) : Except Invalid String := do return (← draft.build).compile.query

/-- The one clause, what it is restricted by and the search for
neighbours. -/
def segments (draft : Draft) : List Segment := [
    .fixed "(~",
    .clause draft.textField,
    .fixed (joined draft.restriction ++ ")=>[KNN $" ++ neighboursParam ++ " @"
      ++ Escape.field draft.vector.field ++ " $" ++ vectorParam ++ " AS " ++ distanceAlias ++ "]")
  ]

/-- A draft that is accepted with one text is with any other that has
words. -/
theorem build_asking {draft : Draft} {query : Hybrid} (h : draft.build = .ok query)
    (asked : Asked) : (draft.asking asked).build =
      (TextClause.wordsOf asked.stopwords asked.text).map fun words =>
        { query with text := asked.text, words } := by
  obtain ⟨hname, halpha, hresults, hdialect, hreturn, words, -, rfl⟩ := build_eq_ok.mp h
  simp only [build, asking, hname, halpha, hresults, hdialect, hreturn]
  cases TextClause.wordsOf asked.stopwords asked.text with
  | error cause => rfl
  | ok words => rfl

/-- The query string is written in the segments of its draft, whatever the words
are. -/
theorem toList_queryString {draft : Draft} {query : Hybrid} (h : draft.build = .ok query)
    (words : List String) : (queryString { query with words }).toList
      = draft.segments.flatMap (Segment.fill (Tokens.joinWords words)) := by
  obtain ⟨-, -, -, -, -, -, -, rfl⟩ := build_eq_ok.mp h
  simp only [queryString, textPart, TextClause.render, segments, joined, List.flatMap_cons,
    List.flatMap_nil, Segment.fill, List.append_nil]
  split
  all_goals
    simp only [String.toList_append, List.append_assoc]
    rfl

/-- The text and the stop words are no part of the settings that are valid or
not. -/
theorem hasValidSettings_asking {draft : Draft} {asked : Asked} :
    (draft.asking asked).HasValidSettings ↔ draft.HasValidSettings :=
  ⟨fun h => { h with }, fun h => { h with }⟩

/-- A hybrid query carries its words in its one field. -/
theorem carriesWords (draft : Draft) :
    CarriesWords draft.HasValidSettings id [draft.textField] fun asked =>
      (draft.asking asked).send := by
  have hfields : draft.segments.filterMap Segment.field? = [draft.textField] := rfl
  refine carriesWords_of_segments (fun asked => (draft.asking asked).build) (·.compile.query)
    hfields ?_ ?_ words_plain_ne_nil
  · intro asked
    rw [exists_build_iff, hasValidSettings_asking]
    rfl
  intro other query hquery
  exact ⟨fun asked words => { query with text := asked.text, words },
    @build_asking (draft.asking other) query hquery,
    fun _ => @toList_queryString (draft.asking other) query hquery⟩

end Hybrid.Draft

/-! ## Nearest neighbours with a text clause -/

namespace Nearest.Draft

/-- The draft with another text clause. -/
def asking (draft : Draft) (field text : String) : Draft :=
  { draft with textClause := some (field, text) }

/-- The query string of a draft. -/
def send (draft : Draft) : Except Invalid String := do return (← draft.build).compile.query

/-- What the search is restricted by, the clause and the search. -/
def segments (draft : Draft) (field : String) : List Segment := [
    .fixed (draft.restriction.build ++ " "),
    .clause field,
    .fixed ("=>[KNN $" ++ neighboursParam ++ " @" ++ Escape.field draft.vector.field ++ " $"
      ++ vectorParam ++ draft.tuning.clause
      ++ (if draft.returnScore then " AS " ++ distanceAlias else "") ++ "]")
  ]

/-- A draft that is accepted with a text in its clause is with any other
that has words. -/
theorem build_asking {draft : Draft} {field text : String} {query : Nearest}
    (h : (draft.asking field text).build = .ok query) (text' : String) :
    (draft.asking field text').build =
      (TextClause.wordsOf .none text').map fun words =>
        { query with textClause := some ⟨field, words⟩ } := by
  obtain ⟨htuning, textClause, hclause, options, hoptions, rfl⟩ := build_eq_ok.mp h
  obtain ⟨clause, hmake, hsome⟩ := bind_eq_ok.mp hclause
  obtain ⟨hname, -⟩ := TextClause.make_eq_ok.mp hmake
  cases hwords : TextClause.wordsOf .none text' with
  | error cause =>
    have hcheck : (draft.asking field text').tuning.check = .ok () := htuning
    rw [build, hcheck]
    simp only [asking, checkClause, TextClause.make, hname, hwords]
    rfl
  | ok words =>
    -- the other checks are those that the first text passed
    have hmake : TextClause.make field text' = .ok ⟨field, words⟩ :=
      TextClause.make_eq_ok.mpr ⟨hname, words, hwords, rfl⟩
    have hclause : checkClause (draft.asking field text').textClause = .ok (some ⟨field, words⟩) :=
      bind_eq_ok.mpr ⟨_, hmake, rfl⟩
    exact build_eq_ok.mpr ⟨htuning, _, hclause, options, hoptions, rfl⟩

/-- The query string is written in the segments of its draft, whatever the words
of the clause are. -/
theorem toList_queryString {draft : Draft} {field text : String} {query : Nearest}
    (h : (draft.asking field text).build = .ok query) (words : List String) :
    (queryString { query with textClause := some ⟨field, words⟩ }).toList
      = (draft.segments field).flatMap (Segment.fill (Tokens.joinWords words)) := by
  obtain ⟨-, -, -, -, -, rfl⟩ := build_eq_ok.mp h
  simp only [queryString, clausePart, TextClause.render, segments, List.flatMap_cons,
    List.flatMap_nil, Segment.fill, List.append_nil, String.toList_append, List.append_assoc]
  rfl

/-- The clause is no part of the settings that are valid or not. -/
theorem hasValidSettings_asking {draft : Draft} {field text : String} :
    (draft.asking field text).HasValidSettings ↔ draft.HasValidSettings :=
  ⟨fun h => { h with }, fun h => { h with }⟩

/-- A search for neighbours carries the words of its clause in the field of
the clause. -/
theorem carriesWords (draft : Draft) (field : String) :
    CarriesWords (draft.HasValidSettings ∧ IsNamed field) (fun text => ⟨text, .none⟩) [field]
      fun text => (draft.asking field text).send := by
  have hfields : (draft.segments field).filterMap Segment.field? = [field] := rfl
  refine carriesWords_of_segments (fun text => (draft.asking field text).build) (·.compile.query)
    hfields ?_ ?_ words_plain_ne_nil
  · intro text
    rw [exists_build_iff, hasValidSettings_asking, and_assoc]
    simp only [asking, Option.mem_some_iff, forall_eq', Asked.words]
  intro other query hquery
  exact ⟨fun _ words => { query with textClause := some ⟨field, words⟩ }, build_asking hquery,
    fun _ => toList_queryString hquery⟩

end Nearest.Draft

/-! ## Every kind -/

/-- **Text clauses carry exactly the words of their text**, in each of the
kinds of queries that have one. The settings that are valid are those that the
kind has besides: names, weights, counts, sizes, an order and a blend. -/
theorem carriesWords_of_every_kind :
    (∀ draft : FullText.Draft, CarriesWords draft.HasValidSettings id
      (draft.fields.map WeightedField.field) fun asked => (draft.asking asked).send) ∧
    (∀ draft : Hybrid.Draft, CarriesWords draft.HasValidSettings id [draft.textField]
      fun asked => (draft.asking asked).send) ∧
    ∀ (draft : Nearest.Draft) (field : String),
      CarriesWords (draft.HasValidSettings ∧ IsNamed field) (fun text => ⟨text, .none⟩) [field]
        fun text => (draft.asking field text).send :=
  ⟨FullText.Draft.carriesWords, Hybrid.Draft.carriesWords, Nearest.Draft.carriesWords⟩

/-- A text whose second word has a bar and parentheses, and one that has no
words, asked in two weighted fields, in a hybrid query and in the clause of a
search for neighbours. -/
theorem carriesWords_of_every_kind_barred :
    let half : Double := Decimal.toBinary ⟨false, 5, -1⟩
    let vector : Embedding := {
      values := [Binary.zero]
      field := "embedding"
      dtype := .float32
      weight := half
      payload := [0, 0, 0, 0]
    }
    let fullText : FullText.Draft := {
      text := ""
      fields := [⟨"title", half⟩, ⟨"body", WeightedField.plainWeight⟩]
      results := { sortBy := some (.directed "rating" "DESC") }
    }
    let hybrid : Hybrid.Draft := { text := "", textField := "body", vector, alpha := half }
    let nearest : Nearest.Draft := {
      vector
      tuning := { hybridPolicy := some .batches, batchSize := some 100 }
    }
    let barred : Asked := ⟨"A, (|)", .none⟩
    let bare : Asked := ⟨", ,", .none⟩
    barred.words = [['a'], ['(', '|', ')']] ∧ bare.words = [] ∧
    (fullText.HasValidSettings ∧
      (∃ sent, (fullText.asking barred).send = .ok sent ∧
        HasClauses ["title", "body"] barred.words sent) ∧
      (fullText.asking bare).send = .error (.noTokens ", ,")) ∧
    (hybrid.HasValidSettings ∧
      (∃ sent, (hybrid.asking barred).send = .ok sent ∧
        HasClauses ["body"] barred.words sent) ∧
      (hybrid.asking bare).send = .error (.noTokens ", ,")) ∧
    nearest.HasValidSettings ∧ IsNamed "title" ∧
      (∃ sent, (nearest.asking "title" "A, (|)").send = .ok sent ∧
        HasClauses ["title"] barred.words sent) ∧
      (nearest.asking "title" ", ,").send = .error (.noTokens ", ,") := by
  intro half vector fullText hybrid nearest barred bare
  have hwords : barred.words = [['a'], ['(', '|', ')']] := by decide +kernel
  have hsome : barred.words ≠ [] := by
    rw [hwords]
    exact List.cons_ne_nil _ _
  have hnone : bare.words = [] := by decide +kernel
  have hhalf : WeightedField.IsAccepted half := ⟨by decide +kernel, by decide +kernel⟩
  have hone : WeightedField.IsAccepted WeightedField.plainWeight :=
    ⟨by decide +kernel, by decide +kernel⟩
  have hfullText : fullText.HasValidSettings := {
    fields_ne_nil := List.cons_ne_nil _ _
    fields_named := by decide +kernel
    weights_accepted := List.forall_mem_cons.mpr ⟨hhalf, List.forall_mem_singleton.mpr hone⟩
    scorer_named := by decide +kernel
    results := {
      num_pos := by decide
      dialect_pos := by decide
      fields_named := List.forall_mem_nil _
      sort_accepted := by
        rintro spec ⟨⟩
        exact SortSpec.exists_normalize_iff.mp ⟨⟨some ⟨"rating", false⟩, []⟩, by decide⟩
    }
  }
  have hhybrid : hybrid.HasValidSettings := {
    field_named := by decide
    alpha_blends := ⟨hhalf.1, hhalf.2.le, by decide +kernel⟩
    num_pos := by decide
    dialect_pos := by decide
    fields_named := List.forall_mem_nil _
  }
  have hnearest : nearest.HasValidSettings := {
    tuning := {
      efRuntime_pos := nofun
      searchWindowSize_pos := nofun
      searchBufferCapacity_pos := nofun
      batchSize_pos := by
        rintro size ⟨⟩
        decide
      batches := fun _ => rfl
    }
    results := ⟨by decide, by decide, List.forall_mem_nil _, nofun⟩
  }
  have htitle : IsNamed "title" := by decide
  obtain ⟨htext, hblend, hneighbours⟩ := carriesWords_of_every_kind
  have htext := htext fullText
  have hblend := hblend hybrid
  have hneighbours := hneighbours nearest "title"
  exact ⟨hwords, hnone,
    ⟨hfullText, htext.exists_sent hfullText hsome, (htext.refused_iff hfullText bare).mpr hnone⟩,
    ⟨hhybrid, hblend.exists_sent hhybrid hsome, (hblend.refused_iff hhybrid bare).mpr hnone⟩,
    hnearest, htitle, hneighbours.exists_sent ⟨hnearest, htitle⟩ hsome,
    (hneighbours.refused_iff ⟨hnearest, htitle⟩ ", ,").mpr hnone⟩

end SearchQuery.Query
