import SearchQuery.Proofs.Binary.Integer
import SearchQuery.Proofs.Binary.Order
import SearchQuery.Proofs.Query.Accepted
import SearchQuery.Proofs.Sort
import SearchQuery.Proofs.Text.Words

/-!
# Valid settings

A draft that searches for the words of a text is accepted for two reasons that
have nothing to do with each other: its text has words, and its other settings
are valid. The second is said here for the three kinds that have a text, and
said without the checks of a build: a name is not blank, a count is one at
least, a weight and a blend are judged by their exact values, and an order by
what can be wrong with it (`SortSpec.IsRefusedFor`).

`exists_build_iff` puts the two together for each kind. It is an equivalence,
so it would be broken by a check that was left out as by one too many.
-/

namespace SearchQuery

/-- An order that nothing is wrong with is reduced. -/
theorem SortSpec.exists_normalize_iff {spec : SortSpec} :
    (∃ order, spec.normalize = .ok order) ↔ ∀ cause, ¬spec.IsRefusedFor cause := by
  simp only [← normalize_eq_error]
  cases spec.normalize with
  | error cause => exact iff_of_false nofun fun h => h cause rfl
  | ok order => exact iff_of_true ⟨order, rfl⟩ nofun

namespace Query

/-! ## Results -/

/-- Results that can be returned. -/
structure Results.AreValid (results : Results) : Prop where
  num_pos : 1 ≤ results.numResults
  dialect_pos : 1 ≤ results.dialect
  fields_named : ∀ field ∈ results.returnFields, IsNamed field
  sort_accepted : ∀ spec ∈ results.sortBy, ∀ cause, ¬spec.IsRefusedFor cause

/-- The order of results is accepted when nothing is wrong with it, and when
none was given. -/
theorem Results.exists_sortKey_iff {spec : Option SortSpec} {byDefault : Option SortKey} :
    (∃ key, sortKey spec byDefault = .ok key) ↔
      ∀ given ∈ spec, ∀ cause, ¬given.IsRefusedFor cause := by
  cases spec with
  | none => exact iff_of_true ⟨byDefault, rfl⟩ nofun
  | some spec =>
    simp only [sortKey, bind_eq_ok, pure_eq_ok, Option.mem_some_iff, forall_eq',
      ← SortSpec.exists_normalize_iff]
    constructor
    · rintro ⟨key, order, horder, -⟩
      exact ⟨order, horder⟩
    · rintro ⟨order, horder⟩
      exact ⟨order.key, order, horder, rfl⟩

/-- The key by which results are sorted by default has no say in whether they
are accepted. -/
theorem Results.exists_check_iff {results : Results} {byDefault : Option SortKey} :
    (∃ options, results.check byDefault = .ok options) ↔ results.AreValid := by
  simp only [check_eq_ok, requirePositive_eq_ok, requireDialect_eq_ok, requireReturnFields_eq_ok]
  constructor
  · rintro ⟨options, hnum, hdialect, hfields, key, hkey, -⟩
    exact ⟨hnum, hdialect, hfields, exists_sortKey_iff.mp ⟨key, hkey⟩⟩
  · rintro ⟨hnum, hdialect, hfields, hsort⟩
    obtain ⟨key, hkey⟩ : ∃ key, sortKey results.sortBy byDefault = .ok key :=
      exists_sortKey_iff.mpr hsort
    exact ⟨_, hnum, hdialect, hfields, key, hkey, rfl⟩

/-! ## Tuning -/

/-- Sizes that an index can work with, and a batch size only where there are
batches. -/
structure Tuning.IsValid (tuning : Tuning) : Prop where
  efRuntime_pos : ∀ size ∈ tuning.efRuntime, 1 ≤ size
  searchWindowSize_pos : ∀ size ∈ tuning.searchWindowSize, 1 ≤ size
  searchBufferCapacity_pos : ∀ size ∈ tuning.searchBufferCapacity, 1 ≤ size
  batchSize_pos : ∀ size ∈ tuning.batchSize, 1 ≤ size
  batches : tuning.batchSize.isSome = true → tuning.hybridPolicy = some .batches

theorem Tuning.requireSize_eq_ok {setting : String} {size : Option UInt64} :
    requireSize setting size = .ok () ↔ ∀ given ∈ size, 1 ≤ given := by
  cases size with
  | none => exact iff_of_true rfl nofun
  | some size => simp only [requireSize, requirePositive_eq_ok, Option.mem_some_iff, forall_eq']

/-- The tuning of an index is accepted when it is valid. -/
theorem Tuning.check_eq_ok {tuning : Tuning} : tuning.check = .ok () ↔ tuning.IsValid := by
  simp only [check, bind_eq_ok, exists_unit_eq_ok, requireSize_eq_ok, refuse_unit_eq_ok,
    Bool.and_eq_true, bne_iff_ne, not_and_not_right]
  constructor
  · rintro ⟨hruntime, hwindow, hcapacity, hsize, hbatches⟩
    exact ⟨hruntime, hwindow, hcapacity, hsize, hbatches⟩
  · rintro ⟨hruntime, hwindow, hcapacity, hsize, hbatches⟩
    exact ⟨hruntime, hwindow, hcapacity, hsize, hbatches⟩

/-! ## Weights of fields -/

namespace WeightedField

/-- A weight is a finite number greater than zero. -/
def IsAccepted (weight : Double) : Prop := weight.isFinite = true ∧ 0 < weight.toRat

theorem isPositive_iff {x : Double} (hx : x.isFinite = true) :
    x.isPositive = true ↔ 0 < x.toRat := by
  have hzero : (Binary.zero : Double).toRat = 0 := Binary.magnitude_signedZero false
  have hnan : (Binary.zero : Double).isNaN = false := by decide
  rw [← hzero, Binary.toRat_lt_toRat, Binary.isPositive, Binary.lt, hnan,
    (Binary.isNaN_and_isInfinite_of_isFinite hx).1]
  simp

/-- What a build asks of a weight is that it is accepted. -/
theorem isAccepted_iff {weight : Double} :
    (weight.isFinite && weight.isPositive) = true ↔ IsAccepted weight := by
  rw [Bool.and_eq_true, IsAccepted, and_congr_right_iff]
  exact isPositive_iff

/-- A field is accepted with a name and such a weight. -/
theorem check_eq_ok {f : WeightedField} :
    f.check = .ok () ↔ Text.isBlank f.field = false ∧ IsAccepted f.weight := by
  rw [check, bind_eq_ok, exists_unit_eq_ok, requireName_eq_ok, IsNamed, ← isAccepted_iff]
  refine and_congr_right fun _ => ?_
  cases hweight : f.weight.isFinite && f.weight.isPositive
  · exact iff_of_false nofun Bool.false_ne_true
  · exact iff_of_true rfl rfl

/-- Fields are accepted when each one is. -/
theorem checkAll_eq_ok {fields : List WeightedField} :
    checkAll fields = .ok () ↔ ∀ f ∈ fields, f.check = .ok () := by
  induction fields with
  | nil => exact iff_of_true rfl (List.forall_mem_nil _)
  | cons first rest ih =>
    rw [checkAll, bind_eq_ok, exists_unit_eq_ok, ih, List.forall_mem_cons]

end WeightedField

/-! ## Blends -/

namespace Hybrid

/-- A blend is a finite number from zero to one. -/
def IsBlend (alpha : Double) : Prop :=
  alpha.isFinite = true ∧ 0 ≤ alpha.toRat ∧ alpha.toRat ≤ 1

/-- A blend is accepted when it is one. The bounds are numbers of the format, so
the comparison with them is exact. -/
theorem checkAlpha_eq_ok {alpha : Double} : checkAlpha alpha = .ok () ↔ IsBlend alpha := by
  have hinfinity : 0 < Format.double.infinity := by decide
  have hzero : (Binary.zero : Double).isFinite = true := by decide
  have hnothing : (Binary.zero : Double).toRat = 0 := Binary.magnitude_signedZero false
  obtain ⟨hone, hvalue⟩ := Binary.toRat_ofInt Format.double_holdsIntegers (n := 1) (by decide)
  -- on the line of all numbers, a finite one is compared by its exact value
  have hle {x y : Double} (hx : x.isFinite = true) (hy : y.isFinite = true) :
      x.le y = true ↔ x.toRat ≤ y.toRat := by
    rw [Binary.le_iff_value_le hinfinity (Binary.isNaN_and_isInfinite_of_isFinite hx).1
      (Binary.isNaN_and_isInfinite_of_isFinite hy).1, Binary.value_of_isFinite hx,
      Binary.value_of_isFinite hy, WithBot.coe_le_coe, WithTop.coe_le_coe]
  have hwithin : ((Binary.zero : Double).le alpha && alpha.le (Binary.ofInt 1)) = true ↔
      IsBlend alpha := by
    rw [Bool.and_eq_true]
    constructor
    · rintro ⟨hlow, hhigh⟩
      have halpha := Binary.isFinite_of_between hzero hone hlow hhigh
      rw [hle hzero halpha, hnothing] at hlow
      rw [hle halpha hone, hvalue, Int.cast_one] at hhigh
      exact ⟨halpha, hlow, hhigh⟩
    · rintro ⟨halpha, hlow, hhigh⟩
      rw [hle hzero halpha, hle halpha hone, hnothing, hvalue, Int.cast_one]
      exact ⟨hlow, hhigh⟩
  rw [← hwithin, checkAlpha]
  split
  · next h => exact iff_of_true rfl h
  · next h => exact iff_of_false nofun h

end Hybrid

/-! ## Drafts -/

/-- The words of a text are taken when there is one at least. -/
theorem TextClause.exists_wordsOf_iff {stopwords : Stopwords} {text : String} :
    (∃ words, wordsOf stopwords text = .ok words) ↔ stopwords.searched text ≠ [] := by
  simp only [Stopwords.wordsOf_eq_ok, exists_and_left, exists_eq', and_true]

/-- The settings of a full-text query are valid, apart from its text and its
stop words. -/
structure FullText.Draft.HasValidSettings (draft : Draft) : Prop where
  fields_ne_nil : draft.fields ≠ []
  fields_named : ∀ f ∈ draft.fields, IsNamed f.field
  weights_accepted : ∀ f ∈ draft.fields, WeightedField.IsAccepted f.weight
  scorer_named : IsNamed draft.scorer
  results : draft.results.AreValid

/-- A full-text draft is accepted when its settings are valid and its text has
words. -/
theorem FullText.Draft.exists_build_iff {draft : Draft} :
    (∃ query, draft.build = .ok query) ↔
      draft.HasValidSettings ∧ draft.stopwords.searched draft.text ≠ [] := by
  simp only [build_eq_ok, List.isEmpty_iff, WeightedField.checkAll_eq_ok, WeightedField.check_eq_ok,
    requireName_eq_ok]
  constructor
  · rintro ⟨query, hsome, hfields, hscorer, words, hwords, options, hoptions, -⟩
    exact ⟨⟨hsome, fun f hf => (hfields f hf).1, fun f hf => (hfields f hf).2, hscorer,
      Results.exists_check_iff.mp ⟨options, hoptions⟩⟩,
      TextClause.exists_wordsOf_iff.mp ⟨words, hwords⟩⟩
  · rintro ⟨⟨hsome, hnamed, hweights, hscorer, hresults⟩, hwords⟩
    obtain ⟨words, hwords⟩ := TextClause.exists_wordsOf_iff.mpr hwords
    obtain ⟨options, hoptions⟩ := Results.exists_check_iff.mpr hresults
    exact ⟨_, hsome, fun f hf => ⟨hnamed f hf, hweights f hf⟩, hscorer, words, hwords, options,
      hoptions, rfl⟩

/-- The settings of a hybrid query are valid, apart from its text and its stop
words. -/
structure Hybrid.Draft.HasValidSettings (draft : Draft) : Prop where
  field_named : IsNamed draft.textField
  alpha_blends : IsBlend draft.alpha
  num_pos : 1 ≤ draft.numResults
  dialect_pos : 1 ≤ draft.dialect
  fields_named : ∀ field ∈ draft.returnFields, IsNamed field

/-- A hybrid draft is accepted when its settings are valid and its text has
words. -/
theorem Hybrid.Draft.exists_build_iff {draft : Draft} :
    (∃ query, draft.build = .ok query) ↔
      draft.HasValidSettings ∧ draft.stopwords.searched draft.text ≠ [] := by
  simp only [build_eq_ok, requireName_eq_ok, checkAlpha_eq_ok, requirePositive_eq_ok,
    requireDialect_eq_ok, requireReturnFields_eq_ok]
  constructor
  · rintro ⟨query, hname, halpha, hnum, hdialect, hfields, words, hwords, -⟩
    exact ⟨⟨hname, halpha, hnum, hdialect, hfields⟩,
      TextClause.exists_wordsOf_iff.mp ⟨words, hwords⟩⟩
  · rintro ⟨⟨hname, halpha, hnum, hdialect, hfields⟩, hwords⟩
    obtain ⟨words, hwords⟩ := TextClause.exists_wordsOf_iff.mpr hwords
    exact ⟨_, hname, halpha, hnum, hdialect, hfields, words, hwords, rfl⟩

/-- The settings of a search for neighbours are valid, apart from its text
clause. -/
structure Nearest.Draft.HasValidSettings (draft : Draft) : Prop where
  tuning : draft.tuning.IsValid
  results : draft.results.AreValid

/-- A draft for nearest neighbours is accepted when its settings are valid, and
the clause, if it has one, has a named field and words. -/
theorem Nearest.Draft.exists_build_iff {draft : Draft} :
    (∃ query, draft.build = .ok query) ↔ draft.HasValidSettings ∧
      ∀ clause ∈ draft.textClause, IsNamed clause.1 ∧ Stopwords.none.searched clause.2 ≠ [] := by
  have hclause : (∃ made, checkClause draft.textClause = .ok made) ↔
      ∀ clause ∈ draft.textClause, IsNamed clause.1 ∧ Stopwords.none.searched clause.2 ≠ [] := by
    cases draft.textClause with
    | none => exact iff_of_true ⟨_, rfl⟩ nofun
    | some clause =>
      obtain ⟨field, text⟩ := clause
      simp only [checkClause, bind_eq_ok, pure_eq_ok, TextClause.make_eq_ok, requireName_eq_ok,
        Option.mem_some_iff, forall_eq', ← TextClause.exists_wordsOf_iff]
      constructor
      · rintro ⟨-, -, ⟨hname, words, hwords, -⟩, -⟩
        exact ⟨hname, words, hwords⟩
      · rintro ⟨hname, words, hwords⟩
        exact ⟨_, _, ⟨hname, words, hwords, rfl⟩, rfl⟩
  rw [← hclause]
  simp only [build_eq_ok, Tuning.check_eq_ok]
  constructor
  · rintro ⟨query, htuning, made, hmade, options, hoptions, -⟩
    exact ⟨⟨htuning, Results.exists_check_iff.mp ⟨options, hoptions⟩⟩, made, hmade⟩
  · rintro ⟨⟨htuning, hresults⟩, made, hmade⟩
    obtain ⟨options, hoptions⟩ := Results.exists_check_iff.mpr hresults
    exact ⟨_, htuning, made, hmade, options, hoptions, rfl⟩

end Query

end SearchQuery
