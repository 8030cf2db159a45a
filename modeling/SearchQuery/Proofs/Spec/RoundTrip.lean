import SearchQuery.Proofs.Spec.Filter
import SearchQuery.Spec.Reading

/-!
# Specifications are read as they were written

A query file is a record, and each reader looks for its settings by name.
The names of a record are distinct, so a setting is read from the entry that
was written for it, wherever that entry stands; what is left of a kind of
query is that its settings are read one by one. A setting that is absent is
written as null and read as absent.

Two shapes are told apart by what they hold and not by a name: a sort order
is the first of four that fits, and a restriction is a text or a record.
There the law says that no earlier shape takes what was written in a later
one.

`readsBack_of_isFinite` puts the laws together.
-/

namespace SearchQuery

open Document (required_of_mem withDefault_of_mem optional_of_mem entries?_record)

/-- A mode is found by its name. -/
theorem Query.History.find?_name (mode : Query.History) :
    Keyword.find? (Keyword.name mode) = some mode := by
  cases mode <;> rfl

/-- A policy is found by its name. -/
theorem Query.Policy.find?_name (policy : Query.Policy) :
    Keyword.find? (Keyword.name policy) = some policy := by
  cases policy <;> rfl

/-! ## Sort orders -/

/-- A key is read back with its direction. -/
theorem SortKey.ofDocument?_toDocument (key : SortKey) : ofDocument? key.toDocument = some key :=
  rfl

namespace SortSpec

/-- A list of keys is none of the other three: its first item is no text. -/
theorem ofDocument?_keys (given : List SortKey) :
    ofDocument? (keys given).toDocument = some (keys given) := by
  have hread : Document.list? SortKey.ofDocument? (Document.ofList SortKey.toDocument given)
      = some given :=
    Document.list?_ofList fun key _ => key.ofDocument?_toDocument
  -- a list may stand for a record, so a list of keys is taken for one key first
  have hkey : SortKey.ofDocument? (Document.ofList SortKey.toDocument given) = none := by
    match given with
    | [] => rfl
    | [_] => rfl
    | [_, _] => rfl
    | _ :: _ :: _ :: _ => rfl
  have hdirected : directed? (Document.ofList SortKey.toDocument given) = none := by
    match given with
    | [] => rfl
    | [_] => rfl
    | [_, _] => rfl
    | _ :: _ :: _ :: _ => rfl
  rw [toDocument, ofDocument?, hkey, hdirected, hread]
  rfl

/-- **A sort order is read as it was written**, in each of its four shapes. -/
theorem ofDocument?_toDocument (spec : SortSpec) : ofDocument? spec.toDocument = some spec := by
  cases spec with
  | field name => rfl
  | directed name direction => rfl
  | key given => rfl
  | keys given => exact ofDocument?_keys given

end SortSpec

/-! ## Stop words and vectors -/

/-- Stop words are read back, in a file of either format. -/
theorem Stopwords.ofDocument?_toDocument (isNothing : Document → Bool) (stopwords : Stopwords) :
    ofDocument? isNothing stopwords.toDocument = some stopwords := by
  cases stopwords with
  | none => rfl
  | english => rfl
  | custom words =>
    have hwords := Document.texts?_ofTexts words
    simp [ofDocument?, toDocument, Document.variant?, hwords]

namespace VectorSpec

/-- Every number of the vector is finite. -/
def IsFinite (spec : VectorSpec) : Prop :=
  (∀ x ∈ spec.values, x.isFinite = true) ∧ spec.weight.isFinite = true

/-- A vector is read back if its elements and its weight can be written. -/
theorem ofDocument?_toDocument (spec : VectorSpec) (h : spec.IsFinite) :
    ofDocument? spec.toDocument = some spec := by
  obtain ⟨hvalues, hweight⟩ := h
  have hread : Document.list? Document.single?
      (Document.ofList (fun x : Single => Document.ofDouble x.convert) spec.values)
      = some spec.values :=
    Document.list?_ofList fun x hx => Document.single?_ofDouble (hvalues x hx)
  have hdtype := Keyword.ofDocument?_toDocument spec.dtype.find?_name
  rw [ofDocument?, toDocument, @entries?_record names _ rfl (by decide)]
  simp [Document.required, Document.withDefault, List.lookup, Document.text?, hread, hdtype,
    Document.double?_ofDouble hweight]

end VectorSpec

namespace ClauseSpec

/-- A text clause is read back. -/
theorem ofDocument?_toDocument (spec : ClauseSpec) : ofDocument? spec.toDocument = some spec := by
  rw [ofDocument?, toDocument, @entries?_record names _ rfl (by decide)]
  rfl

end ClauseSpec

namespace FieldSpec

/-- A field is read back if its weight can be written. -/
theorem ofDocument?_toDocument (spec : FieldSpec) (h : spec.weight.isFinite = true) :
    ofDocument? spec.toDocument = some spec := by
  rw [ofDocument?, toDocument, @entries?_record names _ rfl (by decide)]
  simp [Document.required, Document.withDefault, List.lookup, Document.text?,
    Document.double?_ofDouble h]

end FieldSpec

/-! ## Defaults -/

namespace Defaults

/-- Defaults are read back if the blend can be written. -/
theorem ofDocument?_toDocument (isNothing : Document → Bool) (defaults : Defaults)
    (h : defaults.alpha.isFinite = true) :
    ofDocument? isNothing defaults.toDocument = some defaults := by
  rw [ofDocument?, toDocument, @entries?_record names _ rfl (by decide)]
  simp [ofEntries?, toEntries, Document.withDefault, List.lookup, Document.dialect?_natural,
    Document.count?_natural, Document.double?_ofDouble h, Stopwords.ofDocument?_toDocument]

end Defaults

/-! ## Shared settings -/

section Shared

variable {entries : List (String × Document)} (hnodup : (entries.map Prod.fst).Nodup)

include hnodup

/-- The settings of the results are found among those of any query. -/
theorem ResultSpec.ofEntries?_of_subset {spec : ResultSpec} (h : spec.toEntries ⊆ entries) :
    ofEntries? entries = some spec := by
  have hfields : Document.withDefault entries "return_fields" [] Document.texts?
      = some spec.returnFields :=
    withDefault_of_mem hnodup (h (by simp [toEntries])) _ (Document.texts?_ofTexts _)
  have hresults : Document.optional entries "num_results" Document.count?
      = some spec.numResults :=
    optional_of_mem hnodup (h (by simp [toEntries])) rfl fun n _ => Document.count?_natural n
  have hoffset : Document.withDefault entries "offset" 0 Document.count? = some spec.offset :=
    withDefault_of_mem hnodup (h (by simp [toEntries])) _ (Document.count?_natural _)
  have hdialect : Document.optional entries "dialect" Document.dialect? = some spec.dialect :=
    optional_of_mem hnodup (h (by simp [toEntries])) rfl fun n _ => Document.dialect?_natural n
  have hsort : Document.optional entries "sort_by" SortSpec.ofDocument? = some spec.sortBy :=
    optional_of_mem hnodup (h (by simp [toEntries])) rfl fun sort _ => sort.ofDocument?_toDocument
  have horder : Document.withDefault entries "in_order" false Document.bool? = some spec.inOrder :=
    withDefault_of_mem hnodup (h (by simp [toEntries])) _ (Document.bool?_bool _)
  rw [ofEntries?, hfields, hresults, hoffset, hdialect, hsort, horder]
  rfl

/-- The tuning is found among the settings of a query. -/
theorem TuningSpec.ofEntries?_of_subset {tuning : Query.Tuning}
    (h : toEntries tuning ⊆ entries) : ofEntries? entries = some tuning := by
  have hef : Document.optional entries "ef_runtime" Document.count? = some tuning.efRuntime :=
    optional_of_mem hnodup (h (by simp [toEntries])) rfl fun n _ => Document.count?_natural n
  have hwindow : Document.optional entries "search_window_size" Document.count?
      = some tuning.searchWindowSize :=
    optional_of_mem hnodup (h (by simp [toEntries])) rfl fun n _ => Document.count?_natural n
  have hhistory : Document.optional entries "use_search_history" Keyword.ofDocument?
      = some tuning.useSearchHistory :=
    optional_of_mem hnodup (h (by simp [toEntries])) rfl
      fun mode _ => Keyword.ofDocument?_toDocument mode.find?_name
  have hbuffer : Document.optional entries "search_buffer_capacity" Document.count?
      = some tuning.searchBufferCapacity :=
    optional_of_mem hnodup (h (by simp [toEntries])) rfl fun n _ => Document.count?_natural n
  have hpolicy : Document.optional entries "hybrid_policy" Keyword.ofDocument?
      = some tuning.hybridPolicy :=
    optional_of_mem hnodup (h (by simp [toEntries])) rfl
      fun policy _ => Keyword.ofDocument?_toDocument policy.find?_name
  have hbatch : Document.optional entries "batch_size" Document.count? = some tuning.batchSize :=
    optional_of_mem hnodup (h (by simp [toEntries])) rfl fun n _ => Document.count?_natural n
  rw [ofEntries?, hef, hwindow, hhistory, hbuffer, hpolicy, hbatch]
  rfl

/-- The restriction is found among the settings of a query. -/
theorem RestrictionSpec.ofEntries?_of_mem {filter : Option RestrictionSpec}
    (hmem : toEntry filter ∈ entries) (h : ∀ spec ∈ filter, spec.IsFinite) :
    ofEntries? entries = some filter :=
  optional_of_mem hnodup hmem rfl fun spec hspec => spec.ofDocument?_toDocument (h spec hspec)

end Shared

/-! ## Kinds of queries -/

namespace NearestSpec

/-- Every number of the query is finite. -/
def IsFinite (spec : NearestSpec) : Prop :=
  spec.vector.IsFinite ∧ ∀ filter ∈ spec.filter, filter.IsFinite

/-- A query for nearest neighbours is read back: its own entries, those of the
tuning and those of the results stand beside each other and have no key in
common. -/
theorem ofDocument?_toEntries (spec : NearestSpec) (h : spec.IsFinite) :
    ofDocument? (.record spec.toEntries) = some spec := by
  obtain ⟨hvectorFinite, hfilterFinite⟩ := h
  have hnodup : (spec.toEntries.map Prod.fst).Nodup := (by decide : names.Nodup)
  have hvector : Document.required spec.toEntries "vector" VectorSpec.ofDocument?
      = some spec.vector :=
    required_of_mem hnodup (by simp [toEntries]) (spec.vector.ofDocument?_toDocument hvectorFinite)
  have hfilter : RestrictionSpec.ofEntries? spec.toEntries = some spec.filter :=
    RestrictionSpec.ofEntries?_of_mem hnodup (by simp [toEntries]) hfilterFinite
  have hclause : Document.optional spec.toEntries "text_clause" ClauseSpec.ofDocument?
      = some spec.textClause :=
    optional_of_mem hnodup (by simp [toEntries]) rfl
      fun clause _ => clause.ofDocument?_toDocument
  have hscore : Document.withDefault spec.toEntries "return_score" true Document.bool?
      = some spec.returnScore :=
    withDefault_of_mem hnodup (by simp [toEntries]) _ (Document.bool?_bool _)
  have htuning : TuningSpec.ofEntries? spec.toEntries = some spec.tuning :=
    TuningSpec.ofEntries?_of_subset hnodup fun entry hentry => by simp [toEntries, hentry]
  have hresults : ResultSpec.ofEntries? spec.toEntries = some spec.results :=
    ResultSpec.ofEntries?_of_subset hnodup fun entry hentry => by simp [toEntries, hentry]
  rw [ofDocument?, @entries?_record names _ rfl (by decide)]
  simp only [Option.bind_eq_bind, Option.bind_some, hvector, hfilter, hclause, hscore, htuning,
    hresults]
  rfl

end NearestSpec

namespace RangeSpec

/-- Every number of the query is finite. -/
def IsFinite (spec : RangeSpec) : Prop :=
  spec.vector.IsFinite ∧ (∀ filter ∈ spec.filter, filter.IsFinite) ∧
    (∀ x ∈ spec.threshold, x.isFinite = true) ∧ ∀ x ∈ spec.epsilon, x.isFinite = true

/-- A range query is read back. -/
theorem ofDocument?_toEntries (spec : RangeSpec) (h : spec.IsFinite) :
    ofDocument? (.record spec.toEntries) = some spec := by
  obtain ⟨hvectorFinite, hfilterFinite, hthresholdFinite, hepsilonFinite⟩ := h
  have hnodup : (spec.toEntries.map Prod.fst).Nodup := (by decide : names.Nodup)
  have hvector : Document.required spec.toEntries "vector" VectorSpec.ofDocument?
      = some spec.vector :=
    required_of_mem hnodup (by simp [toEntries]) (spec.vector.ofDocument?_toDocument hvectorFinite)
  have hfilter : RestrictionSpec.ofEntries? spec.toEntries = some spec.filter :=
    RestrictionSpec.ofEntries?_of_mem hnodup (by simp [toEntries]) hfilterFinite
  have hthreshold : Document.optional spec.toEntries "distance_threshold" Document.double?
      = some spec.threshold :=
    optional_of_mem hnodup (by simp [toEntries]) rfl
      fun x hx => Document.double?_ofDouble (hthresholdFinite x hx)
  have hepsilon : Document.optional spec.toEntries "epsilon" Document.double? = some spec.epsilon :=
    optional_of_mem hnodup (by simp [toEntries]) rfl
      fun x hx => Document.double?_ofDouble (hepsilonFinite x hx)
  have hnormalize : Document.withDefault spec.toEntries "normalize_vector_distance" false
      Document.bool? = some spec.normalize :=
    withDefault_of_mem hnodup (by simp [toEntries]) _ (Document.bool?_bool _)
  have hresults : ResultSpec.ofEntries? spec.toEntries = some spec.results :=
    ResultSpec.ofEntries?_of_subset hnodup fun entry hentry => by simp [toEntries, hentry]
  rw [ofDocument?, @entries?_record names _ rfl (by decide)]
  simp only [Option.bind_eq_bind, Option.bind_some, hvector, hfilter, hthreshold, hepsilon,
    hnormalize, hresults]
  rfl

end RangeSpec

namespace FullTextSpec

/-- Every number of the query is finite. -/
def IsFinite (spec : FullTextSpec) : Prop :=
  (∀ f ∈ spec.fields, f.weight.isFinite = true) ∧ ∀ filter ∈ spec.filter, filter.IsFinite

/-- A full-text query is read back, its fields in order. -/
theorem ofDocument?_toEntries (spec : FullTextSpec) (h : spec.IsFinite) :
    ofDocument? (.record spec.toEntries) = some spec := by
  obtain ⟨hfieldsFinite, hfilterFinite⟩ := h
  have hnodup : (spec.toEntries.map Prod.fst).Nodup := (by decide : names.Nodup)
  have htext : Document.required spec.toEntries "text" Document.text? = some spec.text :=
    required_of_mem hnodup (by simp [toEntries]) (Document.text?_text _)
  have hfields : Document.required spec.toEntries "fields" (Document.list? FieldSpec.ofDocument?)
      = some spec.fields :=
    required_of_mem hnodup (by simp [toEntries])
      (Document.list?_ofList fun f hf => f.ofDocument?_toDocument (hfieldsFinite f hf))
  have hfilter : RestrictionSpec.ofEntries? spec.toEntries = some spec.filter :=
    RestrictionSpec.ofEntries?_of_mem hnodup (by simp [toEntries]) hfilterFinite
  have hstopwords : Document.withDefault spec.toEntries "stopwords" .none Stopwords.inFile?
      = some spec.stopwords :=
    withDefault_of_mem hnodup (by simp [toEntries]) _ (Stopwords.ofDocument?_toDocument _ _)
  have hscorer : Document.optional spec.toEntries "scorer" Document.text? = some spec.scorer :=
    optional_of_mem hnodup (by simp [toEntries]) rfl fun s _ => Document.text?_text s
  have hscore : Document.withDefault spec.toEntries "return_score" true Document.bool?
      = some spec.returnScore :=
    withDefault_of_mem hnodup (by simp [toEntries]) _ (Document.bool?_bool _)
  have hresults : ResultSpec.ofEntries? spec.toEntries = some spec.results :=
    ResultSpec.ofEntries?_of_subset hnodup fun entry hentry => by simp [toEntries, hentry]
  rw [ofDocument?, @entries?_record names _ rfl (by decide)]
  simp only [Option.bind_eq_bind, Option.bind_some, htext, hfields, hfilter, hstopwords, hscorer,
    hscore, hresults]
  rfl

end FullTextSpec

namespace ListingSpec

/-- A listing is read back. -/
theorem ofDocument?_toEntries (spec : ListingSpec) (h : ∀ filter ∈ spec.filter, filter.IsFinite) :
    ofDocument? (.record spec.toEntries) = some spec := by
  have hnodup : (spec.toEntries.map Prod.fst).Nodup := (by decide : names.Nodup)
  have hfilter : RestrictionSpec.ofEntries? spec.toEntries = some spec.filter :=
    RestrictionSpec.ofEntries?_of_mem hnodup (by simp [toEntries]) h
  have hresults : ResultSpec.ofEntries? spec.toEntries = some spec.results :=
    ResultSpec.ofEntries?_of_subset hnodup fun entry hentry => by simp [toEntries, hentry]
  rw [ofDocument?, @entries?_record names _ rfl (by decide)]
  simp only [Option.bind_eq_bind, Option.bind_some, hfilter, hresults]
  rfl

end ListingSpec

namespace CountSpec

/-- A count is read back. -/
theorem ofDocument?_toEntries (spec : CountSpec) (h : ∀ filter ∈ spec.filter, filter.IsFinite) :
    ofDocument? (.record spec.toEntries) = some spec := by
  have hnodup : (spec.toEntries.map Prod.fst).Nodup := (by decide : names.Nodup)
  have hfilter : RestrictionSpec.ofEntries? spec.toEntries = some spec.filter :=
    RestrictionSpec.ofEntries?_of_mem hnodup (by simp [toEntries]) h
  have hdialect : Document.optional spec.toEntries "dialect" Document.dialect? = some spec.dialect :=
    optional_of_mem hnodup (by simp [toEntries, dialectEntry]) rfl
      fun n _ => Document.dialect?_natural n
  rw [ofDocument?, @entries?_record names _ rfl (by decide)]
  simp only [Option.bind_eq_bind, Option.bind_some, hfilter, hdialect]
  rfl

end CountSpec

namespace HybridSpec

/-- Every number of the query is finite. -/
def IsFinite (spec : HybridSpec) : Prop :=
  spec.vector.IsFinite ∧ (∀ x ∈ spec.alpha, x.isFinite = true) ∧
    ∀ filter ∈ spec.filter, filter.IsFinite

/-- A hybrid query is read back, with whatever it leaves to the defaults left
out. -/
theorem ofDocument?_toEntries (spec : HybridSpec) (h : spec.IsFinite) :
    ofDocument? (.record spec.toEntries) = some spec := by
  obtain ⟨hvectorFinite, halphaFinite, hfilterFinite⟩ := h
  have hnodup : (spec.toEntries.map Prod.fst).Nodup := (by decide : names.Nodup)
  have htext : Document.required spec.toEntries "text" Document.text? = some spec.text :=
    required_of_mem hnodup (by simp [toEntries]) (Document.text?_text _)
  have hfield : Document.required spec.toEntries "text_field" Document.text?
      = some spec.textField :=
    required_of_mem hnodup (by simp [toEntries]) (Document.text?_text _)
  have hvector : Document.required spec.toEntries "vector" VectorSpec.ofDocument?
      = some spec.vector :=
    required_of_mem hnodup (by simp [toEntries]) (spec.vector.ofDocument?_toDocument hvectorFinite)
  have halpha : Document.optional spec.toEntries "alpha" Document.double? = some spec.alpha :=
    optional_of_mem hnodup (by simp [toEntries]) rfl
      fun x hx => Document.double?_ofDouble (halphaFinite x hx)
  have hfilter : RestrictionSpec.ofEntries? spec.toEntries = some spec.filter :=
    RestrictionSpec.ofEntries?_of_mem hnodup (by simp [toEntries]) hfilterFinite
  have hstopwords : Document.optional spec.toEntries "stopwords" Stopwords.inFile?
      = some spec.stopwords :=
    optional_of_mem hnodup (by simp [toEntries]) rfl
      fun stopwords _ => stopwords.ofDocument?_toDocument _
  have hresults : Document.optional spec.toEntries "num_results" Document.count?
      = some spec.numResults :=
    optional_of_mem hnodup (by simp [toEntries, countEntry]) rfl
      fun n _ => Document.count?_natural n
  have hfields : Document.withDefault spec.toEntries "return_fields" [] Document.texts?
      = some spec.returnFields :=
    withDefault_of_mem hnodup (by simp [toEntries]) _ (Document.texts?_ofTexts _)
  have hdialect : Document.optional spec.toEntries "dialect" Document.dialect? = some spec.dialect :=
    optional_of_mem hnodup (by simp [toEntries, dialectEntry]) rfl
      fun n _ => Document.dialect?_natural n
  rw [ofDocument?, @entries?_record names _ rfl (by decide)]
  simp only [Option.bind_eq_bind, Option.bind_some, htext, hfield, hvector, halpha, hfilter,
    hstopwords, hresults, hfields, hdialect]
  rfl

end HybridSpec

namespace MultiVectorSpec

/-- Every number of the query is finite. -/
def IsFinite (spec : MultiVectorSpec) : Prop :=
  (∀ vector ∈ spec.vectors, vector.IsFinite) ∧ ∀ filter ∈ spec.filter, filter.IsFinite

/-- A query over several vectors is read back, with the vectors in order. -/
theorem ofDocument?_toEntries (spec : MultiVectorSpec) (h : spec.IsFinite) :
    ofDocument? (.record spec.toEntries) = some spec := by
  obtain ⟨hvectorsFinite, hfilterFinite⟩ := h
  have hnodup : (spec.toEntries.map Prod.fst).Nodup := (by decide : names.Nodup)
  have hvectors : Document.required spec.toEntries "vectors"
      (Document.list? VectorSpec.ofDocument?) = some spec.vectors :=
    required_of_mem hnodup (by simp [toEntries]) (Document.list?_ofList
      fun vector hvector => vector.ofDocument?_toDocument (hvectorsFinite vector hvector))
  have hfilter : RestrictionSpec.ofEntries? spec.toEntries = some spec.filter :=
    RestrictionSpec.ofEntries?_of_mem hnodup (by simp [toEntries]) hfilterFinite
  have hresults : Document.optional spec.toEntries "num_results" Document.count?
      = some spec.numResults :=
    optional_of_mem hnodup (by simp [toEntries, countEntry]) rfl
      fun n _ => Document.count?_natural n
  have hfields : Document.withDefault spec.toEntries "return_fields" [] Document.texts?
      = some spec.returnFields :=
    withDefault_of_mem hnodup (by simp [toEntries]) _ (Document.texts?_ofTexts _)
  have hdialect : Document.optional spec.toEntries "dialect" Document.dialect? = some spec.dialect :=
    optional_of_mem hnodup (by simp [toEntries, dialectEntry]) rfl
      fun n _ => Document.dialect?_natural n
  rw [ofDocument?, @entries?_record names _ rfl (by decide)]
  simp only [Option.bind_eq_bind, Option.bind_some, hvectors, hfilter, hresults, hfields, hdialect]
  rfl

end MultiVectorSpec

/-! ## Any query -/

namespace QuerySpec

/-- Every number of the query is finite. -/
def IsFinite : QuerySpec → Prop
  | nearest spec => spec.IsFinite
  | range spec => spec.IsFinite
  | fullText spec => spec.IsFinite
  | listing spec => ∀ filter ∈ spec.filter, filter.IsFinite
  | count spec => ∀ filter ∈ spec.filter, filter.IsFinite
  | hybrid spec => spec.IsFinite
  | multiVector spec => spec.IsFinite

/-- The entries of a query are read by its kind. -/
theorem ofKind?_toEntries (spec : QuerySpec) (h : spec.IsFinite) :
    ofKind? spec.kindName (.record spec.toEntries) = some spec := by
  cases spec with
  | nearest spec => exact congrArg (Option.map nearest) (spec.ofDocument?_toEntries h)
  | range spec => exact congrArg (Option.map range) (spec.ofDocument?_toEntries h)
  | fullText spec => exact congrArg (Option.map fullText) (spec.ofDocument?_toEntries h)
  | listing spec => exact congrArg (Option.map listing) (spec.ofDocument?_toEntries h)
  | count spec => exact congrArg (Option.map count) (spec.ofDocument?_toEntries h)
  | hybrid spec => exact congrArg (Option.map hybrid) (spec.ofDocument?_toEntries h)
  | multiVector spec => exact congrArg (Option.map multiVector) (spec.ofDocument?_toEntries h)

/-- No setting of a query is called like the entry that names its kind. -/
theorem typeName_notMem_toEntries (spec : QuerySpec) :
    Document.typeName ∉ spec.toEntries.map Prod.fst := by
  cases spec with
  | nearest => exact (by decide : Document.typeName ∉ NearestSpec.names)
  | range => exact (by decide : Document.typeName ∉ RangeSpec.names)
  | fullText => exact (by decide : Document.typeName ∉ FullTextSpec.names)
  | listing => exact (by decide : Document.typeName ∉ ListingSpec.names)
  | count => exact (by decide : Document.typeName ∉ CountSpec.names)
  | hybrid => exact (by decide : Document.typeName ∉ HybridSpec.names)
  | multiVector => exact (by decide : Document.typeName ∉ MultiVectorSpec.names)

/-- A query of any kind is read back as one of its kind. -/
theorem ofDocument?_toDocument_of_isFinite (spec : QuerySpec) (h : spec.IsFinite) :
    ofDocument? spec.toDocument = some spec := by
  rw [ofDocument?, toDocument, Document.typed?_ofKind _ spec.typeName_notMem_toEntries]
  exact spec.ofKind?_toEntries h

end QuerySpec

/-! ## Every specification -/

/-- **A specification is read as it was written**: a query of any of the
seven kinds, a filter, on its own or as a file, a sort order and the
defaults, whatever a format takes for nothing beside the name of stop words.
A number that is not finite has no written form, so the numbers are finite;
a sort order has none. -/
theorem readsBack_of_isFinite :
    (∀ spec : QuerySpec, spec.IsFinite → QuerySpec.ofDocument? spec.toDocument = some spec) ∧
    (∀ spec : FilterSpec, spec.IsFinite →
      FilterSpec.ofDocument? spec.toDocument = some spec ∧
      FilterSpec.ofFile? spec.toDocument = some spec) ∧
    (∀ spec : SortSpec, SortSpec.ofDocument? spec.toDocument = some spec) ∧
    ∀ (isNothing : Document → Bool) (defaults : Defaults), defaults.alpha.isFinite = true →
      Defaults.ofDocument? isNothing defaults.toDocument = some defaults :=
  ⟨QuerySpec.ofDocument?_toDocument_of_isFinite,
    fun spec h => ⟨spec.ofDocument?_toDocument h, spec.ofFile?_toDocument h⟩,
    SortSpec.ofDocument?_toDocument,
    Defaults.ofDocument?_toDocument⟩

/-- A query with a nested filter, a sort order of no keys and a vector of two
numbers, its filter alone, a sort order that is a list, and the standard
defaults. -/
theorem readsBack_of_isFinite_nested :
    let one : Double := ⟨false, 4607182418800017408, by decide⟩
    let filter : FilterSpec :=
      .not (.all [.numeric "price" .lt one, .any [], .tag "brand" ["a|b"] true])
    let spec : QuerySpec := .nearest {
      vector := { field := "v", values := [⟨false, 0, by decide⟩, ⟨true, 1, by decide⟩] }
      filter := some (.tree filter)
      textClause := some { field := "title", text := "a b" }
      results := { sortBy := some (.keys []) } }
    let defaults : Defaults := {}
    QuerySpec.ofDocument? spec.toDocument = some spec ∧
      FilterSpec.ofFile? filter.toDocument = some filter ∧
      SortSpec.ofDocument? (SortSpec.keys [⟨"a", false⟩]).toDocument
        = some (.keys [⟨"a", false⟩]) ∧
      Defaults.ofDocument? Document.isNothing defaults.toDocument = some defaults := by
  intro one filter spec defaults
  have hone : one.isFinite = true := by cbv
  have hfilter : filter.IsFinite := ⟨hone, trivial, trivial, trivial⟩
  have hspec : spec.IsFinite := by
    refine ⟨⟨?_, by cbv⟩, ?_⟩
    · intro x hx
      rcases List.mem_pair.mp hx with rfl | rfl <;> cbv
    · rintro given hgiven
      cases hgiven
      exact hfilter
  have halpha : defaults.alpha.isFinite = true := by cbv
  exact ⟨readsBack_of_isFinite.1 spec hspec,
    (readsBack_of_isFinite.2.1 filter hfilter).2,
    readsBack_of_isFinite.2.2.1 _,
    readsBack_of_isFinite.2.2.2 Document.isNothing defaults halpha⟩

end SearchQuery
