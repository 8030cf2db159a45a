import SearchQuery.Proofs.Accepted
import SearchQuery.Query.Hybrid
import SearchQuery.Query.Listing
import SearchQuery.Query.MultiVector
import SearchQuery.Query.Nearest
import SearchQuery.Query.Range

/-!
# Accepted drafts

For each kind of query, the checks that its draft has to pass and the query
that it then makes.
-/

namespace SearchQuery.Query

/-! ## Checks -/

/-- A name that is not blank. -/
def IsNamed (name : String) : Prop := Text.isBlank name = false

instance (name : String) : Decidable (IsNamed name) :=
  inferInstanceAs (Decidable (Text.isBlank name = false))

/-- A name is accepted unless it is blank. -/
theorem requireName_eq_ok {role name : String} : requireName role name = .ok () ↔ IsNamed name := by
  unfold requireName IsNamed
  cases Text.isBlank name <;> simp

/-- A count is accepted from one on. -/
theorem requirePositive_eq_ok {setting : String} {count : UInt64} :
    requirePositive setting count = .ok () ↔ 1 ≤ count := by
  have hpos : 1 ≤ count ↔ count ≠ 0 := by
    rw [ne_eq, ← UInt64.toNat_inj, UInt64.le_iff_toNat_le, UInt64.toNat_zero, UInt64.toNat_one]
    omega
  unfold requirePositive
  by_cases h : count = 0 <;> simp [h, hpos]

/-- A dialect is accepted from one on. -/
theorem requireDialect_eq_ok {dialect : UInt32} :
    requireDialect dialect = .ok () ↔ 1 ≤ dialect := by
  have hpos : 1 ≤ dialect ↔ dialect ≠ 0 := by
    rw [ne_eq, ← UInt32.toNat_inj, UInt32.le_iff_toNat_le, UInt32.toNat_zero, UInt32.toNat_one]
    omega
  unfold requireDialect
  by_cases h : dialect = 0 <;> simp [h, hpos]

/-- Fields to return are accepted when each has a name. -/
theorem requireReturnFields_eq_ok {fields : List String} :
    requireReturnFields fields = .ok () ↔ ∀ field ∈ fields, IsNamed field := by
  unfold requireReturnFields IsNamed
  cases h : fields.any Text.isBlank with
  | true =>
    obtain ⟨field, hmem, hblank⟩ := List.any_eq_true.mp h
    simp only [if_true, reduceCtorEq, false_iff]
    exact fun hall => Bool.false_ne_true ((hall field hmem).symm.trans hblank)
  | false =>
    simpa using h

/-! ## Drafts -/

/-- The options of a search are those of its results, sorted by the key that
the order is reduced to. -/
theorem Results.check_eq_ok {results : Results} {byDefault : Option SortKey}
    {options : SearchOptions} :
    results.check byDefault = .ok options ↔
      requirePositive "num_results" results.numResults = .ok () ∧
      requireDialect results.dialect = .ok () ∧
      requireReturnFields results.returnFields = .ok () ∧
      ∃ key, sortKey results.sortBy byDefault = .ok key ∧
        { returnFields := results.returnFields, offset := results.offset,
          num := results.numResults, dialect := results.dialect, sortBy := key,
          inOrder := results.inOrder } = options := by
  simp only [check, bind_eq_ok, pure_eq_ok, exists_unit_eq_ok]

/-- A text clause is made of a named field and the words of its text. -/
theorem TextClause.make_eq_ok {field text : String} {clause : TextClause} :
    make field text = .ok clause ↔ requireName "text field" field = .ok () ∧
      ∃ words, wordsOf .none text = .ok words ∧ ⟨field, words⟩ = clause := by
  simp only [make, bind_eq_ok, pure_eq_ok, exists_unit_eq_ok]

/-- A search for neighbours is made of accepted tuning, an accepted clause if
there is one, and accepted results, sorted by the distance unless told
otherwise. -/
theorem Nearest.Draft.build_eq_ok {draft : Draft} {query : Nearest} :
    draft.build = .ok query ↔ draft.tuning.check = .ok () ∧
      ∃ textClause, checkClause draft.textClause = .ok textClause ∧
      ∃ options, draft.results.check (if draft.returnScore then some nearestFirst else none)
          = .ok options ∧
        ⟨draft.vector, draft.restriction, textClause, draft.tuning, draft.returnScore,
          if draft.returnScore then returningDistance options else options⟩ = query := by
  simp only [build, bind_eq_ok, pure_eq_ok, exists_unit_eq_ok]

/-- A range query is made of an accepted threshold, an accepted epsilon if there
is one, and accepted results. It always returns the distance. -/
theorem Range.Draft.build_eq_ok {draft : Draft} {query : Range} :
    draft.build = .ok query ↔
      ∃ threshold, checkThreshold draft.normalize draft.threshold = .ok threshold ∧
      ∃ epsilon, draft.epsilon.mapM checkEpsilon = .ok epsilon ∧
      ∃ options, draft.results.check (some nearestFirst) = .ok options ∧
        ⟨draft.vector, draft.restriction, threshold, epsilon, draft.normalize,
          returningDistance options⟩ = query := by
  simp only [build, bind_eq_ok, pure_eq_ok]

/-- A full-text query is made of one accepted field or more, a scorer that has a
name, words, and accepted results. -/
theorem FullText.Draft.build_eq_ok {draft : Draft} {query : FullText} :
    draft.build = .ok query ↔ ¬draft.fields.isEmpty ∧
      WeightedField.checkAll draft.fields = .ok () ∧ requireName "scorer" draft.scorer = .ok () ∧
      ∃ words, TextClause.wordsOf draft.stopwords draft.text = .ok words ∧
      ∃ options, draft.results.check none = .ok options ∧
        ⟨draft.text, words, draft.fields, draft.restriction,
          { options with scorer := some draft.scorer, withScores := draft.returnScore }⟩
          = query := by
  simp only [build, refuse_eq_ok, bind_eq_ok, pure_eq_ok, exists_unit_eq_ok]

/-- A listing is made of accepted results. -/
theorem Listing.Draft.build_eq_ok {draft : Draft} {query : Listing} :
    draft.build = .ok query ↔
      ∃ options, draft.results.check none = .ok options ∧
        ⟨draft.restriction, options⟩ = query := by
  simp only [build, bind_eq_ok, pure_eq_ok]

/-- A hybrid query is made of a field that has a name, an accepted blend,
accepted counts and fields, and words. -/
theorem Hybrid.Draft.build_eq_ok {draft : Draft} {query : Hybrid} :
    draft.build = .ok query ↔ requireName "text field" draft.textField = .ok () ∧
      checkAlpha draft.alpha = .ok () ∧ requirePositive "num_results" draft.numResults = .ok () ∧
      requireDialect draft.dialect = .ok () ∧ requireReturnFields draft.returnFields = .ok () ∧
      ∃ words, TextClause.wordsOf draft.stopwords draft.text = .ok words ∧
        ⟨draft.text, draft.textField, words, draft.vector, draft.alpha, draft.restriction,
          draft.numResults, draft.returnFields, draft.dialect⟩ = query := by
  simp only [build, bind_eq_ok, pure_eq_ok, exists_unit_eq_ok]

/-- A query over several vectors is made of one vector or more, and accepted
counts and fields. -/
theorem MultiVector.Draft.build_eq_ok {draft : Draft} {query : MultiVector} :
    draft.build = .ok query ↔ ¬draft.vectors.isEmpty ∧
      requirePositive "num_results" draft.numResults = .ok () ∧
      requireDialect draft.dialect = .ok () ∧ requireReturnFields draft.returnFields = .ok () ∧
        ⟨draft.vectors, draft.restriction, draft.numResults, draft.returnFields,
          draft.dialect⟩ = query := by
  simp only [build, refuse_eq_ok, bind_eq_ok, pure_eq_ok, exists_unit_eq_ok]

end SearchQuery.Query
