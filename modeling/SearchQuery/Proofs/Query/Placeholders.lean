import Mathlib.Data.List.Nodup
import SearchQuery.Proofs.Command.Parameters
import SearchQuery.Proofs.Decimal.Figures
import SearchQuery.Proofs.Names
import SearchQuery.Proofs.Query.Accepted
import SearchQuery.Proofs.Syntax.Marks

/-!
# Placeholders and their values

A query with vectors sends a query string and, apart from it, the values of
its placeholders. The two are written by different functions, and here they
are shown to agree: the placeholders of the string are the names of the
values, each once (`agree_of_compile`).

A text cannot add a placeholder, since its words are escaped. A filter and
the name of a field could, so both are asked to have no open sign: a path
has its signs escaped, and any other name has to be without them.
-/

namespace SearchQuery.Query

open SearchQuery.Syntax

/-! ## Placeholders -/

/-- The names behind the open `$` of a text, in order. -/
def signed (text : String) : List String := marked '$' text.toList

/-- Names behind a `$` that are attributes of a clause. -/
def attributes : List String := ["EPSILON", "YIELD_DISTANCE_AS"]

/-- The placeholders of a query string, in order. -/
def placeholders (query : String) : List String :=
  (signed query).filter (!attributes.contains ·)

/-- The placeholders of a query string are the names of the parameters, and
each occurs once. -/
def Agree (query : String) (params : Parameters) : Prop :=
  (placeholders query).Perm params.names ∧ (placeholders query).Nodup

/-- A query string whose placeholders are given values, each once. -/
theorem agree_ofList {query : String} {values : List (String × Parameter)}
    (h : placeholders query = Parameters.names values) (hnodup : (Parameters.names values).Nodup) :
    Agree query (Parameters.ofList values) := by
  refine ⟨?_, ?_⟩
  · rw [h]
    exact ((Parameters.ofList_perm hnodup).map Prod.fst).symm
  · rw [h]
    exact hnodup

/-- Names that are no attributes are all placeholders. -/
theorem placeholders_eq_signed {query : String}
    (h : ∀ name ∈ signed query, name ∉ attributes) : placeholders query = signed query := by
  rw [placeholders, List.filter_eq_self]
  simpa only [Bool.not_eq_true', List.contains_eq_mem, decide_eq_false_iff_not] using h

/-! ## Pieces -/

/-- The text can be read apart from what comes before it. -/
def IsApart (text : String) : Prop := IsBoundary '$' text.toList

instance (text : String) : Decidable (IsApart text) :=
  inferInstanceAs (Decidable (IsBoundary _ _))

/-- No character of the text is a `$` or a backslash. -/
def IsUnsigned (text : String) : Prop := ∀ c ∈ text.toList, IsPlain '$' c

instance (text : String) : Decidable (IsUnsigned text) := List.decidableBAll _ _

/-- The text is the name of a placeholder. -/
def IsName (text : String) : Prop := ∀ c ∈ text.toList, isNameChar c = true

instance (text : String) : Decidable (IsName text) := List.decidableBAll _ _

section Pieces

variable {s t separator : String}

/-- The placeholders of two texts are those of the one and of the other, where
the second can be read apart. -/
theorem signed_append (h : IsApart t) : signed (s ++ t) = signed s ++ signed t := by
  unfold signed
  rw [String.toList_append, marked_append h]

/-- A text without a sign before another adds no placeholder to it. -/
theorem signed_append_of_isUnsigned (h : IsUnsigned s) (t : String) :
    signed (s ++ t) = signed t := by
  unfold signed
  rw [String.toList_append, marked_append_of_isPlain h]

/-- A text without a sign has no placeholders. -/
theorem signed_of_isUnsigned (h : IsUnsigned s) : signed s = [] := marked_of_isPlain h

theorem isUnsigned_append (hs : IsUnsigned s) (ht : IsUnsigned t) : IsUnsigned (s ++ t) := by
  intro c hc
  rw [String.toList_append, List.mem_append] at hc
  exact hc.elim (hs c) (ht c)

/-- A text can be read apart when its beginning can. -/
theorem isApart_append (hs : IsApart s) (ht : IsApart t) : IsApart (s ++ t) := by
  unfold IsApart at hs ⊢
  rw [String.toList_append]
  cases hlist : s.toList with
  | nil => exact ht
  | cons c cs =>
    rw [hlist] at hs
    exact hs

/-- What comes after a separator can be read apart from what comes before
it. -/
theorem isApart_separator_append (h : IsSeparator '$' separator.toList) (t : String) :
    IsApart (separator ++ t) := by
  unfold IsApart
  rw [String.toList_append]
  exact isBoundary_append_of_isSeparator h _

/-- Texts on both sides of a separator. -/
theorem signed_separated (h : IsSeparator '$' separator.toList) (s t : String) :
    signed (s ++ (separator ++ t)) = signed s ++ signed t := by
  unfold signed
  rw [String.toList_append, String.toList_append, marked_append_separator h]

/-- A text between parentheses. -/
theorem signed_parenthesized (s : String) : signed ("(" ++ s ++ ")") = signed s := by
  have hopen : IsUnsigned "(" := by decide
  have hclose : IsApart ")" := by decide
  rw [signed_append hclose, signed_append_of_isUnsigned hopen]
  exact List.append_nil _

end Pieces

/-- The space before a placeholder ends whatever name stands before it. -/
theorem isApart_placeholder (name : String) : IsApart (" $" ++ name) := by
  unfold IsApart
  rw [String.toList_append]
  exact (by decide : IsBoundary '$' [' '])

/-- A placeholder behind a space. -/
theorem signed_placeholder {name : String} (h : IsName name) : signed (" $" ++ name) = [name] := by
  have hspace : IsPlain '$' ' ' := by decide
  unfold signed
  rw [String.toList_append]
  exact (marked_cons_of_isPlain hspace _).trans (marked_name (by decide) (by decide) h)

/-! ## Numbers, fields and escaped texts -/

/-- Figures are no signs. -/
theorem isUnsigned_of_isFigure {s : String} (h : ∀ c ∈ s.toList, isFigure c = true) :
    IsUnsigned s :=
  fun c hc => ⟨ne_of_isFigure (h c hc) (by decide), ne_of_isFigure (h c hc) (by decide)⟩

/-- A number that is written has no sign of a placeholder in it. -/
theorem isUnsigned_literal (x : Double) : IsUnsigned (Double.literal x) :=
  isUnsigned_of_isFigure fun _ => Double.isFigure_of_mem_literal

theorem isUnsigned_toString (n : Nat) : IsUnsigned (toString n) := by
  refine isUnsigned_of_isFigure ?_
  rw [Nat.toString_eq_repr, Nat.toList_repr]
  exact fun _ => isFigure_of_mem_toDigits

/-- A stem and the number of a position are the name of a placeholder. -/
theorem isName_numbered {stem : String} (h : IsName stem) (position : Nat) :
    IsName (stem ++ toString position) := by
  intro c hc
  rw [String.toList_append, List.mem_append, Nat.toString_eq_repr, Nat.toList_repr] at hc
  rcases hc with hc | hc
  · exact h c hc
  · have hdigit := Nat.isDigit_of_mem_toDigits (by decide) (by decide) hc
    simp only [isNameChar, Char.isAlphanum, hdigit, Bool.or_true, Bool.true_or]

/-- A field name without a backslash that is a path or has no `$`. -/
def IsPlainField (field : String) : Prop :=
  '\\' ∉ field.toList ∧ (Escape.isPath field = true ∨ '$' ∉ field.toList)

instance (field : String) : Decidable (IsPlainField field) :=
  inferInstanceAs (Decidable (_ ∧ _))

/-- A plain field has no open `$`: those of a path are escaped. -/
theorem signed_field {field : String} (h : IsPlainField field) :
    signed (Escape.field field) = [] := by
  obtain ⟨hescape, hsign⟩ := h
  have hne : ∀ c ∈ field.toList, c ≠ '\\' := by
    rintro c hc rfl
    exact hescape hc
  unfold signed Escape.field
  split
  · rw [String.toList_ofList]
    refine marked_escapeChars ?_
    intro c hc hspecial
    refine ⟨?_, hne c hc⟩
    rintro rfl
    cases hspecial
  · next hpath =>
    refine marked_of_isPlain ?_
    intro c hc
    refine ⟨?_, hne c hc⟩
    rintro rfl
    exact hsign.resolve_left hpath hc

/-- An escaped text has no open `$`. -/
theorem signed_text (value : String) : signed (Escape.text value) = [] := by
  unfold signed
  rw [Escape.toList_text]
  refine marked_escapeChars ?_
  intro c _ hc
  refine ⟨?_, ?_⟩
  · rintro rfl
    cases hc
  · rintro rfl
    cases hc

/-! ## Text clauses -/

namespace TextClause

/-- The words that are kept of a text are escaped. -/
theorem signed_of_mem {stopwords : Stopwords} {text : String} {words : List String}
    (h : wordsOf stopwords text = .ok words) {word : String} (hword : word ∈ words) :
    signed word = [] := by
  dsimp only [wordsOf] at h
  split at h
  · cases h
  · cases h
    obtain ⟨value, -, rfl⟩ := List.mem_map.mp hword
    exact signed_text _

/-- Words without placeholders have none as alternatives. -/
theorem signed_joinWords {words : List String} (h : ∀ word ∈ words, signed word = []) :
    signed (Tokens.joinWords words) = [] := by
  have hbar : IsSeparator '$' " | ".toList := by decide
  rw [signed, Tokens.joinWords, String.toList_intercalate, marked_intercalate hbar,
    List.flatMap_eq_nil_iff]
  intro piece hpiece
  obtain ⟨word, hword, rfl⟩ := List.mem_map.mp hpiece
  exact h word hword

/-- A clause of such words behind a plain field has no open `$`. -/
theorem signed_render {clause : TextClause} (hfield : IsPlainField clause.field)
    (hwords : ∀ word ∈ clause.words, signed word = []) : signed clause.render = [] := by
  have hsplit : clause.render =
      "@" ++ (Escape.field clause.field ++ (":(" ++ Tokens.joinWords clause.words)) ++ ")" := by
    simp only [render, String.append_assoc]
  have hat : IsUnsigned "@" := by decide
  have hopen : IsSeparator '$' ":(".toList := by decide
  have hclose : IsApart ")" := by decide
  rw [hsplit, signed_append hclose, signed_append_of_isUnsigned hat, signed_separated hopen,
    signed_field hfield, signed_joinWords hwords]
  decide

end TextClause

/-! ## Nearest neighbours -/

/-- The search of a vector field, up to the name of the vector. -/
def searchPart (field : String) : String :=
  "=>[KNN $" ++ neighboursParam ++ (" @" ++ Escape.field field) ++ (" $" ++ vectorParam)

/-- A search can be read apart from its restriction. -/
theorem isApart_searchPart (field : String) : IsApart (searchPart field) :=
  isApart_append (isApart_append (by decide) (isApart_separator_append (by decide) _))
    (isApart_placeholder vectorParam)

/-- It has the placeholders of the number of neighbours and of the vector. -/
theorem signed_searchPart {field : String} (h : IsPlainField field) :
    signed (searchPart field) = [neighboursParam, vectorParam] := by
  have hat : IsSeparator '$' " @".toList := by decide
  rw [searchPart, signed_append (isApart_placeholder vectorParam), signed_separated hat,
    signed_field h, signed_placeholder (by decide)]
  decide

namespace Tuning

/-- The name of a setting, if it was given. -/
def givenName (name : String) (given : Bool) : List String := if given then [name] else []

/-- A setting of the index can be read apart, and so can one that is left
out. -/
theorem isApart_bound (name : String) (given : Bool) : IsApart (bound name given) := by
  cases given with
  | false => exact (by decide : IsApart "")
  | true =>
    simp only [bound, ↓reduceIte, String.append_assoc]
    exact isApart_separator_append (by decide) _

/-- A setting has the placeholder of its name, if it was given. -/
theorem signed_bound {name : String} (h : IsName name)
    (given : Bool) : signed (bound name given) = givenName name given := by
  cases given with
  | false => rfl
  | true =>
    have hname : IsUnsigned name := fun c hc => isPlain_of_isNameChar (by decide) (h c hc)
    have hspace : IsUnsigned " " := by decide
    have hsplit : bound name true = " " ++ name ++ (" $" ++ name) := by
      simp only [bound, ↓reduceIte, String.append_assoc]
    rw [hsplit, signed_append (isApart_placeholder name), signed_placeholder h,
      signed_of_isUnsigned (isUnsigned_append hspace hname)]
    rfl

/-- The policy can be read apart from the settings before it. -/
theorem isApart_policyClause (tuning : Tuning) : IsApart tuning.policyClause := by
  unfold policyClause
  split
  · decide
  · rw [String.append_assoc]
    exact isApart_separator_append (by decide) _

/-- The policy has no placeholder. -/
theorem isUnsigned_policyClause (tuning : Tuning) : IsUnsigned tuning.policyClause := by
  have hpolicy : ∀ policy : Policy, IsUnsigned (" HYBRID_POLICY " ++ policy.name) := by
    intro policy
    cases policy <;> decide
  unfold policyClause
  split
  · decide
  · refine isUnsigned_append (hpolicy _) ?_
    split
    · exact isUnsigned_append (by decide) (isUnsigned_toString _)
    · decide

/-- The names of the values of the settings. -/
theorem names_params (tuning : Tuning) : Parameters.names tuning.params =
    givenName "EF_RUNTIME" tuning.efRuntime.isSome
      ++ givenName "SEARCH_WINDOW_SIZE" tuning.searchWindowSize.isSome
      ++ givenName "USE_SEARCH_HISTORY" tuning.useSearchHistory.isSome
      ++ givenName "SEARCH_BUFFER_CAPACITY" tuning.searchBufferCapacity.isSome := by
  have hsetting : ∀ {α : Type} (name : String) (value : α → Parameter) (setting : Option α),
      (setting.map fun x => (name, value x)).toList.map Prod.fst
        = givenName name setting.isSome := by
    intro α name value setting
    cases setting <;> rfl
  simp only [Parameters.names, params, List.map_append, hsetting]

/-- The settings can be read apart from the search that they are for. -/
theorem isApart_clause (tuning : Tuning) : IsApart tuning.clause :=
  isApart_append (isApart_append (isApart_append (isApart_append (isApart_bound _ _)
    (isApart_bound _ _)) (isApart_bound _ _)) (isApart_bound _ _)) (isApart_policyClause tuning)

/-- The settings in the brackets have the placeholders that are given
values. -/
theorem signed_clause (tuning : Tuning) :
    signed tuning.clause = Parameters.names tuning.params := by
  rw [clause, signed_append (isApart_policyClause tuning),
    signed_append (isApart_bound _ _), signed_append (isApart_bound _ _),
    signed_append (isApart_bound _ _), signed_bound (by decide), signed_bound (by decide),
    signed_bound (by decide), signed_bound (by decide),
    signed_of_isUnsigned (isUnsigned_policyClause tuning), List.append_nil, names_params]

/-- No two settings have one name. -/
theorem names_params_sublist (tuning : Tuning) : (Parameters.names tuning.params).Sublist
    ["EF_RUNTIME", "SEARCH_WINDOW_SIZE", "USE_SEARCH_HISTORY", "SEARCH_BUFFER_CAPACITY"] := by
  have hgiven : ∀ (name : String) (given : Bool), (givenName name given).Sublist [name] := by
    intro name given
    cases given with
    | false => exact List.nil_sublist _
    | true => exact .refl _
  rw [names_params]
  exact (((hgiven _ _).append (hgiven _ _)).append (hgiven _ _)).append (hgiven _ _)

end Tuning

namespace Nearest

variable {query : Nearest}

/-- A text clause can be read apart from the restriction before it. -/
theorem isApart_clausePart (query : Nearest) : IsApart query.clausePart := by
  unfold clausePart
  split
  · exact isApart_separator_append (by decide) _
  · decide

/-- A text clause has the placeholders of its clause, which has none. -/
theorem signed_clausePart (h : ∀ clause ∈ query.textClause, signed clause.render = []) :
    signed query.clausePart = [] := by
  have hspace : IsUnsigned " " := by decide
  unfold clausePart
  split
  · next clause hclause => rw [signed_append_of_isUnsigned hspace, h clause hclause]
  · rfl

/-- The name of the distance and the end of the brackets. -/
def ending (returnScore : Bool) : String :=
  (if returnScore then " AS " ++ distanceAlias else "") ++ "]"

/-- The names that the query string has behind a `$`. -/
theorem signed_queryString (hfilter : signed query.restriction.build = [])
    (hclause : ∀ clause ∈ query.textClause, signed clause.render = [])
    (hfield : IsPlainField query.vector.field) :
    signed query.queryString =
      neighboursParam :: vectorParam :: Parameters.names query.tuning.params := by
  have hsplit : query.queryString = query.restriction.build ++ query.clausePart
      ++ searchPart query.vector.field ++ query.tuning.clause ++ ending query.returnScore := by
    simp only [queryString, searchPart, ending, String.append_assoc]
  have hending : IsApart (ending query.returnScore) ∧ IsUnsigned (ending query.returnScore) := by
    cases query.returnScore <;> decide
  rw [hsplit, signed_append hending.1, signed_append (Tuning.isApart_clause _),
    signed_append (isApart_searchPart _), signed_append (isApart_clausePart query), hfilter,
    signed_clausePart hclause, signed_searchPart hfield, Tuning.signed_clause,
    signed_of_isUnsigned hending.2, List.append_nil]
  rfl

/-- The names of the values are among these. -/
theorem names_values_sublist (tuning : Tuning) :
    (neighboursParam :: vectorParam :: Parameters.names tuning.params).Sublist
      (neighboursParam :: vectorParam :: ["EF_RUNTIME", "SEARCH_WINDOW_SIZE",
        "USE_SEARCH_HISTORY", "SEARCH_BUFFER_CAPACITY"]) :=
  ((Tuning.names_params_sublist tuning).cons_cons vectorParam).cons_cons neighboursParam

/-- No two values have one name. -/
theorem nodup_names_values (tuning : Tuning) :
    (neighboursParam :: vectorParam :: Parameters.names tuning.params).Nodup :=
  (names_values_sublist tuning).nodup (by decide)

/-- The placeholders of a query for nearest neighbours have values. -/
theorem agree (hfilter : signed query.restriction.build = [])
    (hclause : ∀ clause ∈ query.textClause, signed clause.render = [])
    (hfield : IsPlainField query.vector.field) : Agree query.queryString query.params := by
  have hsigned := signed_queryString hfilter hclause hfield
  have hnames : ∀ name ∈ neighboursParam :: vectorParam :: ["EF_RUNTIME", "SEARCH_WINDOW_SIZE",
      "USE_SEARCH_HISTORY", "SEARCH_BUFFER_CAPACITY"], name ∉ attributes := by decide
  refine agree_ofList ((placeholders_eq_signed ?_).trans hsigned) (nodup_names_values query.tuning)
  rw [hsigned]
  exact fun name hname => hnames name ((names_values_sublist query.tuning).subset hname)

end Nearest

/-! ## Vectors within a distance -/

/-- The clause of a vector field, up to the name of the vector. -/
def rangePart (field distance name : String) : String :=
  "@" ++ (Escape.field field ++ (":[VECTOR_RANGE " ++ distance)) ++ (" $" ++ name)

/-- It has the placeholder of the vector. -/
theorem signed_rangePart {field distance name : String} (hfield : IsPlainField field)
    (hdistance : IsUnsigned distance) (hname : IsName name) :
    signed (rangePart field distance name) = [name] := by
  have hat : IsUnsigned "@" := by decide
  have hopen : IsSeparator '$' ":[VECTOR_RANGE ".toList := by decide
  rw [rangePart, signed_append (isApart_placeholder name), signed_append_of_isUnsigned hat,
    signed_separated hopen, signed_field hfield, signed_of_isUnsigned hdistance,
    signed_placeholder hname]
  rfl

namespace Range

variable {query : Range}

/-- The attributes of the clause. -/
def attributePart (query : Range) : String :=
  "]=>\x7b" ++ query.epsilonPart ++ "$YIELD_DISTANCE_AS: " ++ distanceAlias ++ "\x7d"

/-- A range clause is the range and its attributes, one behind the other. -/
theorem clause_eq (query : Range) : query.clause =
    rangePart query.vector.field (Double.literal query.threshold) vectorParam
      ++ query.attributePart := by
  simp only [clause, rangePart, attributePart, String.append_assoc]

/-- The attributes can be read apart from the range. -/
theorem isApart_attributePart (query : Range) : IsApart query.attributePart := by
  unfold attributePart
  simp only [String.append_assoc]
  exact isApart_separator_append (by decide) _

/-- The names of the attributes, the factor's if there is one. -/
theorem signed_attributePart (query : Range) :
    signed query.attributePart =
      if query.epsilon.isSome then attributes else ["YIELD_DISTANCE_AS"] := by
  cases h : query.epsilon with
  | none =>
    simp only [attributePart, epsilonPart, h]
    decide
  | some epsilon =>
    have hsplit : query.attributePart = "]=>\x7b$EPSILON" ++ (": " ++ Double.literal epsilon)
        ++ ("; $YIELD_DISTANCE_AS: " ++ distanceAlias ++ "\x7d") := by
      simp only [attributePart, epsilonPart, h, String.append_assoc]
      rfl
    have hfactor : IsSeparator '$' ": ".toList := by decide
    have hend : IsApart ("; $YIELD_DISTANCE_AS: " ++ distanceAlias ++ "\x7d") := by decide
    rw [hsplit, signed_append hend, signed_separated hfactor,
      signed_of_isUnsigned (isUnsigned_literal epsilon), Option.isSome_some, if_pos rfl]
    decide

/-- A range clause has the placeholder of its vector and those of its
attributes. -/
theorem signed_clause (hfield : IsPlainField query.vector.field) :
    signed query.clause = vectorParam :: signed query.attributePart := by
  rw [clause_eq, signed_append (isApart_attributePart query),
    signed_rangePart hfield (isUnsigned_literal _) (by decide)]
  rfl

/-- The names that the query string has behind a `$`. -/
theorem signed_queryString (hfilter : signed query.restriction.build = [])
    (hfield : IsPlainField query.vector.field) :
    signed query.queryString = vectorParam :: signed query.attributePart := by
  unfold queryString
  split
  · exact signed_clause hfield
  · have hsplit : "(" ++ query.clause ++ " " ++ query.restriction.build ++ ")" =
        "(" ++ (query.clause ++ (" " ++ query.restriction.build)) ++ ")" := by
      simp only [String.append_assoc]
    have hspace : IsSeparator '$' " ".toList := by decide
    rw [hsplit, signed_parenthesized, signed_separated hspace, hfilter, List.append_nil,
      signed_clause hfield]

/-- The placeholder of a query for vectors within a distance has a value. -/
theorem agree (hfilter : signed query.restriction.build = [])
    (hfield : IsPlainField query.vector.field) : Agree query.queryString query.params := by
  have hplaceholders : placeholders query.queryString = [vectorParam] := by
    rw [placeholders, signed_queryString hfilter hfield, signed_attributePart]
    cases query.epsilon.isSome <;> decide
  have hvalues : query.params =
      Parameters.ofList [(vectorParam, .bytes query.vector.payload)] := rfl
  rw [hvalues]
  exact agree_ofList hplaceholders (List.nodup_singleton _)

end Range

/-! ## Text and vector blended -/

namespace Hybrid

variable {query : Hybrid}

/-- The text and the restriction have no placeholder. -/
theorem signed_textPart (hfilter : signed query.restriction.build = [])
    (hfield : IsPlainField query.textField) (hwords : ∀ word ∈ query.words, signed word = []) :
    signed query.textPart = [] := by
  have htilde : IsUnsigned "~" := by decide
  have hclause : signed ("~" ++ TextClause.render ⟨query.textField, query.words⟩) = [] := by
    rw [signed_append_of_isUnsigned htilde]
    exact TextClause.signed_render hfield hwords
  unfold textPart
  dsimp only
  split
  · exact hclause
  · have hand : IsSeparator '$' " AND ".toList := by decide
    rw [String.append_assoc, signed_separated hand, hclause, hfilter]
    rfl

/-- The names that the query string has behind a `$`. -/
theorem signed_queryString (hfilter : signed query.restriction.build = [])
    (hfield : IsPlainField query.textField) (hwords : ∀ word ∈ query.words, signed word = [])
    (hvector : IsPlainField query.vector.field) :
    signed query.queryString = [neighboursParam, vectorParam] := by
  have hsplit : query.queryString = "(" ++ query.textPart ++ ")"
      ++ searchPart query.vector.field ++ (" AS " ++ distanceAlias ++ "]") := by
    simp only [queryString, searchPart, String.append_assoc]
    rfl
  have hend : IsApart (" AS " ++ distanceAlias ++ "]") := by decide
  rw [hsplit, signed_append hend, signed_append (isApart_searchPart _), signed_parenthesized,
    signed_textPart hfilter hfield hwords, signed_searchPart hvector]
  decide

/-- The placeholders of a blended query have values. -/
theorem agree (hfilter : signed query.restriction.build = [])
    (hfield : IsPlainField query.textField) (hwords : ∀ word ∈ query.words, signed word = [])
    (hvector : IsPlainField query.vector.field) : Agree query.queryString query.params := by
  have hsigned := signed_queryString hfilter hfield hwords hvector
  have hnames : ∀ name ∈ [neighboursParam, vectorParam], name ∉ attributes := by decide
  have hnodup : [neighboursParam, vectorParam].Nodup := by decide
  refine agree_ofList ((placeholders_eq_signed ?_).trans hsigned) hnodup
  rw [hsigned]
  exact hnames

end Hybrid

/-! ## Several vectors -/

namespace MultiVector

/-- The name of a vector is that of a placeholder. -/
theorem isName_vectorName (position : Nat) : IsName (vectorName position) :=
  isName_numbered (by decide) position

/-- Vectors at different positions have different names. -/
theorem vectorName_injective : Function.Injective vectorName := numbered_injective "vector_"

/-- No position has the name of an attribute. -/
theorem vectorName_not_mem_attributes (position : Nat) : vectorName position ∉ attributes := by
  have hinitial : ∀ name ∈ attributes, name.toList.head? ≠ some 'v' := by decide
  intro hmem
  refine hinitial _ hmem ?_
  rw [vectorName, String.toList_append]
  rfl

/-- The names of the payloads number the vectors. -/
theorem names_payloadsFrom (position : Nat) (vectors : List Embedding) :
    Parameters.names (payloadsFrom position vectors) =
      (List.range' position vectors.length).map vectorName := by
  induction vectors generalizing position with
  | nil => rfl
  | cons vector vectors ih =>
    rw [payloadsFrom, Parameters.names, List.map_cons, List.length_cons, List.range'_succ,
      List.map_cons, ← ih]
    rfl

/-- No two payloads have one name. -/
theorem nodup_names_payloadsFrom (position : Nat) (vectors : List Embedding) :
    (Parameters.names (payloadsFrom position vectors)).Nodup := by
  have hpositions : (List.range' position vectors.length).Nodup := List.nodup_range'
  rw [names_payloadsFrom]
  exact hpositions.map vectorName_injective

/-- The values are the payloads of the vectors, by the names of their
positions. -/
theorem payloadsFrom_eq (position : Nat) (vectors : List Embedding) :
    payloadsFrom position vectors = vectors.mapIdx fun i vector =>
      (vectorName (position + i), .bytes vector.payload) :=
  eq_mapIdx_of_cons (g := fun i vector => (vectorName i, Parameter.bytes vector.payload))
    (fun _ => rfl) (fun _ _ _ => rfl) position vectors

/-- The clause of a vector has its placeholder and one attribute. -/
theorem signed_clause {vector : Embedding} (h : IsPlainField vector.field) (position : Nat) :
    signed (clause position vector) = [vectorName position, "YIELD_DISTANCE_AS"] := by
  have hsplit : clause position vector =
      rangePart vector.field anyDistance (vectorName position) ++ ("]=>\x7b$YIELD_DISTANCE_AS"
        ++ (": distance_" ++ (toString position ++ "\x7d"))) := by
    simp only [clause, rangePart, distanceName, String.append_assoc]
    rfl
  have hattribute : IsApart ("]=>\x7b$YIELD_DISTANCE_AS"
      ++ (": distance_" ++ (toString position ++ "\x7d"))) :=
    isApart_append (by decide) (isApart_separator_append (by decide) _)
  have hstem : IsSeparator '$' ": distance_".toList := by decide
  have hend : IsUnsigned (toString position ++ "\x7d") :=
    isUnsigned_append (isUnsigned_toString position) (by decide)
  have hname : signed "]=>\x7b$YIELD_DISTANCE_AS" = ["YIELD_DISTANCE_AS"] := by decide
  rw [hsplit, signed_append hattribute, signed_separated hstem, signed_of_isUnsigned hend, hname,
    signed_rangePart h (by decide) (isName_vectorName position)]
  rfl

/-- The clauses have the placeholder of a vector and one attribute each, in
order. -/
theorem signed_clausesFrom {vectors : List Embedding}
    (h : ∀ vector ∈ vectors, IsPlainField vector.field) (position : Nat) :
    (clausesFrom position vectors).flatMap signed =
      (List.range' position vectors.length).flatMap fun i =>
        [vectorName i, "YIELD_DISTANCE_AS"] := by
  induction vectors generalizing position with
  | nil => rfl
  | cons vector vectors ih =>
    obtain ⟨hvector, hvectors⟩ := List.forall_mem_cons.mp h
    rw [clausesFrom, List.flatMap_cons, signed_clause hvector, ih hvectors, List.length_cons,
      List.range'_succ, List.flatMap_cons]

/-- The placeholders of the clauses are those of the vectors, in order. -/
theorem filter_signed_clausesFrom {vectors : List Embedding}
    (h : ∀ vector ∈ vectors, IsPlainField vector.field) (position : Nat) :
    ((clausesFrom position vectors).flatMap signed).filter (!attributes.contains ·) =
      Parameters.names (payloadsFrom position vectors) := by
  have hplaceholder (i : Nat) :
      [vectorName i, "YIELD_DISTANCE_AS"].filter (!attributes.contains ·) = [vectorName i] := by
    have hname : attributes.contains (vectorName i) = false := by
      simpa only [List.contains_eq_mem, decide_eq_false_iff_not] using
        vectorName_not_mem_attributes i
    have hattribute : attributes.contains "YIELD_DISTANCE_AS" = true := by decide
    simp only [List.filter_cons, List.filter_nil, hname, hattribute, Bool.not_false, Bool.not_true,
      Bool.false_eq_true, ↓reduceIte]
  simp only [signed_clausesFrom h, List.filter_flatMap, hplaceholder, names_payloadsFrom,
    ← List.map_eq_flatMap]

variable {query : MultiVector}

/-- The clauses of several vectors have the placeholders of each, in order. -/
theorem signed_clauses (query : MultiVector) :
    signed query.clauses = (clausesFrom 0 query.vectors).flatMap signed := by
  have hbar : IsSeparator '$' " | ".toList := by decide
  rw [signed, clauses, String.toList_intercalate, marked_intercalate hbar,
    List.flatMap_map]
  rfl

/-- The names that the query string has behind a `$`. -/
theorem signed_queryString (query : MultiVector) :
    signed query.queryString = signed query.clauses ++
      if query.restriction.isMatchAll then [] else signed query.restriction.build := by
  unfold queryString
  split
  · exact (List.append_nil _).symm
  · have hsplit : "(" ++ query.clauses ++ ") AND (" ++ query.restriction.build ++ ")" =
        "(" ++ (query.clauses ++ (") AND (" ++ query.restriction.build)) ++ ")" := by
      simp only [String.append_assoc]
    have hand : IsSeparator '$' ") AND (".toList := by decide
    rw [hsplit, signed_parenthesized, signed_separated hand]

/-- The placeholders of a query over several vectors have values. -/
theorem agree (hfilter : signed query.restriction.build = [])
    (hfields : ∀ vector ∈ query.vectors, IsPlainField vector.field) :
    Agree query.queryString query.params := by
  refine agree_ofList ?_ (nodup_names_payloadsFrom 0 query.vectors)
  rw [placeholders, signed_queryString, hfilter, ite_self, List.append_nil, signed_clauses]
  exact filter_signed_clausesFrom hfields 0

end MultiVector

/-! ## Any query with vectors -/

/-- The settings of a query with vectors, of any kind. -/
inductive VectorDraft where
  | nearest (draft : Nearest.Draft)
  | range (draft : Range.Draft)
  | hybrid (draft : Hybrid.Draft)
  | multiVector (draft : MultiVector.Draft)

namespace VectorDraft

/-- The query of the settings, once they are checked, ready to be sent. -/
def compile : VectorDraft → Except Invalid Compiled
  | nearest draft => do return (← draft.build).compile
  | range draft => do return (← draft.build).compile
  | hybrid draft => do return (← draft.build).compile
  | multiVector draft => do return (← draft.build).compile

/-- What the documents are restricted by. -/
def restriction : VectorDraft → Restriction
  | nearest draft => draft.restriction
  | range draft => draft.restriction
  | hybrid draft => draft.restriction
  | multiVector draft => draft.restriction

/-- The vector fields and the text field. -/
def fields : VectorDraft → List String
  | nearest draft => draft.vector.field :: (draft.textClause.map Prod.fst).toList
  | range draft => [draft.vector.field]
  | hybrid draft => [draft.vector.field, draft.textField]
  | multiVector draft => draft.vectors.map (·.field)

end VectorDraft

/-- A text clause that was accepted has no open `$` behind a plain field. -/
theorem Nearest.Draft.signed_render_of_checkClause {given : Option (String × String)}
    {accepted : Option TextClause} (h : checkClause given = .ok accepted)
    (hfield : ∀ field ∈ given.map Prod.fst, IsPlainField field) :
    ∀ clause ∈ accepted, signed clause.render = [] := by
  cases given with
  | none =>
    cases h
    intro clause hclause
    cases hclause
  | some pair =>
    obtain ⟨field, text⟩ := pair
    obtain ⟨clause, hclause, h⟩ := bind_eq_ok.mp h
    cases h
    obtain ⟨-, words, hwords, rfl⟩ := TextClause.make_eq_ok.mp hclause
    rintro clause ⟨⟩
    exact TextClause.signed_render (hfield field rfl) fun _ => TextClause.signed_of_mem hwords

/-- **Placeholders and values agree.** In a query with vectors that was
accepted, the placeholders of the query string are the names of the values,
each once, whatever its settings and its text are. -/
theorem agree_of_compile {draft : VectorDraft} {compiled : Compiled}
    (h : draft.compile = .ok compiled) (hfilter : signed draft.restriction.build = [])
    (hfields : ∀ field ∈ draft.fields, IsPlainField field) :
    Agree compiled.query compiled.params := by
  cases draft with
  | nearest draft =>
    obtain ⟨query, hbuild, h⟩ := bind_eq_ok.mp h
    cases h
    obtain ⟨-, clause, hclause, options, -, rfl⟩ := Nearest.Draft.build_eq_ok.mp hbuild
    obtain ⟨hvector, htext⟩ := List.forall_mem_cons.mp hfields
    refine Nearest.agree hfilter (Nearest.Draft.signed_render_of_checkClause hclause ?_) hvector
    exact fun field hfield => htext field (Option.mem_toList.mpr hfield)
  | range draft =>
    obtain ⟨query, hbuild, h⟩ := bind_eq_ok.mp h
    cases h
    obtain ⟨threshold, -, epsilon, -, options, -, rfl⟩ := Range.Draft.build_eq_ok.mp hbuild
    exact Range.agree hfilter (hfields _ (List.mem_singleton.mpr rfl))
  | hybrid draft =>
    obtain ⟨query, hbuild, h⟩ := bind_eq_ok.mp h
    cases h
    obtain ⟨-, -, -, -, -, words, hwords, rfl⟩ := Hybrid.Draft.build_eq_ok.mp hbuild
    obtain ⟨hvector, htext⟩ := List.forall_mem_cons.mp hfields
    exact Hybrid.agree hfilter (htext _ (List.mem_singleton.mpr rfl))
      (fun _ => TextClause.signed_of_mem hwords) hvector
  | multiVector draft =>
    obtain ⟨query, hbuild, h⟩ := bind_eq_ok.mp h
    cases h
    obtain ⟨-, -, -, -, rfl⟩ := MultiVector.Draft.build_eq_ok.mp hbuild
    exact MultiVector.agree hfilter fun vector hvector =>
      hfields _ (List.mem_map.mpr ⟨vector, hvector, rfl⟩)

/-- A text that asks for placeholders, in a search of a tuned index. -/
theorem agree_of_compile_asking :
    let draft := VectorDraft.nearest {
      vector := {
        values := [Binary.ofInt 1]
        field := "$.embedding"
        dtype := .float32
        weight := Embedding.defaultWeight
        payload := [0, 0, 128, 63]
      }
      restriction := .raw "@price:[1 5]"
      textClause := some ("$.title", "$K or $vec")
      tuning := { efRuntime := some 40 }
    }
    ∃ compiled, draft.compile = .ok compiled ∧ signed draft.restriction.build = [] ∧
      (∀ field ∈ draft.fields, IsPlainField field) ∧
      placeholders compiled.query = ["K", "vec", "EF_RUNTIME"] ∧
      Agree compiled.query compiled.params := by
  intro draft
  have hfilter : signed draft.restriction.build = [] := by decide
  have hfields : ∀ field ∈ draft.fields, IsPlainField field := by decide
  refine ⟨_, rfl, hfilter, hfields, ?_, agree_of_compile rfl hfilter hfields⟩
  decide

end SearchQuery.Query
