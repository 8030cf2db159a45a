import SearchQuery.Proofs.Embedding
import SearchQuery.Proofs.Query.Placeholders
import SearchQuery.Proofs.Query.Rebuilt
import SearchQuery.Spec.Query

/-!
# Valid queries

A query that exists is valid. There is no way to one around the checks:
calls on a builder only collect settings, a build checks them, a change of a
built query leaves what another build could have made
(`Rebuilds.build_settled`), and a specification is built in the same way.
So for each kind of query it is enough to look at what a build lets through
(`Draft.isValid`), and of its vectors at how they were made.
-/

namespace SearchQuery

/-! ## What a command asks for -/

namespace Command

/-- How many results are asked for: the second number of `LIMIT`, or the
number of `MAX`. -/
def count : Command → UInt64
  | search options => options.num
  | aggregate pipeline => pipeline.max

/-- The results are names of documents only. -/
def noContent : Command → Bool
  | search options => options.noContent
  | aggregate _ => false

/-- The fields to return or to load. -/
def fields : Command → List String
  | search options => options.returnFields
  | aggregate pipeline => pipeline.load

/-- The field that the results are sorted by. -/
def sortField? : Command → Option String
  | search options => options.sortBy.map SortKey.field
  | aggregate pipeline => some pipeline.sortBy

/-- The text scorer. -/
def scorer? : Command → Option String
  | search options => options.scorer
  | aggregate pipeline => pipeline.scorer

end Command

namespace Query

/-! ## Queries of any kind -/

/-- A query of any kind. -/
inductive Built where
  | nearest (query : Nearest)
  | range (query : Range)
  | fullText (query : FullText)
  | listing (query : Listing)
  | count (query : Count)
  | hybrid (query : Hybrid)
  | multiVector (query : MultiVector)

namespace Built

/-- The query, ready to be sent. -/
def compile : Built → Compiled
  | nearest query => query.compile
  | range query => query.compile
  | fullText query => query.compile
  | listing query => query.compile
  | count query => query.compile
  | hybrid query => query.compile
  | multiVector query => query.compile

/-- The vectors, by the names of their placeholders. -/
def vectors : Built → List (String × Embedding)
  | nearest query => [(vectorParam, query.vector)]
  | range query => [(vectorParam, query.vector)]
  | hybrid query => [(vectorParam, query.vector)]
  | multiVector query =>
    query.vectors.mapIdx fun position vector => (MultiVector.vectorName position, vector)
  | _ => []

/-- The query, if it blends a text with a vector. -/
def blend? : Built → Option Hybrid
  | hybrid query => some query
  | _ => none

/-- The query asks for no results, but for their number. -/
def countsOnly : Built → Prop
  | count _ => True
  | _ => False

/-- The query searches for the words of a text alone. -/
def searchesText : Built → Prop
  | fullText _ => True
  | _ => False

/-- The query yields the distance of a document as a field. -/
def yieldsDistance : Built → Prop
  | nearest query => query.returnScore = true
  | range _ => True
  | _ => False

end Built

/-- The values of the placeholders of a query over vectors that asks for so
many results. -/
structure HoldValues (vectors : List (String × Embedding)) (count : UInt64)
    (params : Parameters) : Prop where
  /-- The number of neighbours is the number of results, as far as a
  parameter can hold it. -/
  neighbours_eq : ∀ value, (neighboursParam, value) ∈ params →
    value = .int (min count.toNat (2 ^ 63 - 1) : Nat)
  /-- The value of a vector is its payload. -/
  vector_iff : ∀ name vector, (name, vector) ∈ vectors →
    ∀ value, (name, value) ∈ params ↔ value = .bytes vector.payload
  /-- The payload has every element in the width of the vector's type, and
  there is an element. -/
  payload : ∀ name vector, (name, vector) ∈ vectors →
    vector.payload ≠ [] ∧ vector.payload.length = vector.dimension * vector.dtype.byteWidth
  /-- Bytes are the value of a vector. -/
  exists_vector : ∀ name bytes, (name, .bytes bytes) ∈ params →
    ∃ vector, (name, vector) ∈ vectors

/-- What everyone may rely on who is sent a query. -/
structure Built.IsValid (query : Built) : Prop where
  dialect_pos : 1 ≤ query.compile.command.dialect
  count_pos : ¬query.countsOnly → 1 ≤ query.compile.command.count
  count_zero : query.countsOnly →
    query.compile.command.count = 0 ∧ query.compile.command.noContent = true
  fields_named : ∀ field ∈ query.compile.command.fields, IsNamed field
  sort_named : ∀ field ∈ query.compile.command.sortField?, IsNamed field
  scorer_named : query.searchesText →
    ∃ scorer, query.compile.command.scorer? = some scorer ∧ IsNamed scorer
  distance_mem : query.yieldsDistance → query.compile.command.fields ≠ [] →
    distanceAlias ∈ query.compile.command.fields
  holdValues : HoldValues query.vectors query.compile.command.count query.compile.params

/-! ## Options of a search -/

/-- What everyone may rely on in the options of a search. -/
structure IsValidSearch (options : SearchOptions) : Prop where
  dialect_pos : 1 ≤ options.dialect
  num_pos : 1 ≤ options.num
  fields_named : ∀ field ∈ options.returnFields, IsNamed field
  sort_named : ∀ key ∈ options.sortBy, IsNamed key.field

/-- The key that an order is reduced to has a name, since it is made of one. -/
theorem isNamed_of_chosen {field : String} {direction : Direction} {discarded : List String}
    {order : SortOrder} (h : SortSpec.chosen field direction discarded = .ok order) :
    ∀ key ∈ order.key, IsNamed key.field := by
  obtain ⟨key, hkey, h⟩ := bind_eq_ok.mp h
  obtain ⟨⟨⟩, hname, hkey⟩ := bind_eq_ok.mp hkey
  cases h
  cases hkey
  rintro key ⟨⟩
  exact requireName_eq_ok.mp hname

/-- An order sorts by a field that has a name. -/
theorem isNamed_of_normalize {spec : SortSpec} {order : SortOrder} (h : spec.normalize = .ok order) :
    ∀ key ∈ order.key, IsNamed key.field := by
  cases spec with
  | field name => exact isNamed_of_chosen h
  | directed name direction =>
    obtain ⟨direction, -, h⟩ := bind_eq_ok.mp h
    exact isNamed_of_chosen h
  | key given => exact isNamed_of_chosen h
  | keys given =>
    cases given with
    | nil =>
      cases h
      rintro key ⟨⟩
    | cons first rest => exact isNamed_of_chosen h

/-- The field that results are sorted by has a name, that of the default key
included. -/
theorem isNamed_of_sortKey {spec : Option SortSpec} {byDefault key? : Option SortKey}
    (h : Results.sortKey spec byDefault = .ok key?) (hdefault : ∀ key ∈ byDefault, IsNamed key.field) :
    ∀ key ∈ key?, IsNamed key.field := by
  cases spec with
  | none =>
    cases h
    exact hdefault
  | some spec =>
    obtain ⟨order, horder, h⟩ := bind_eq_ok.mp h
    cases h
    exact isNamed_of_normalize horder

/-- The options of results that were accepted. -/
theorem isValidSearch_of_check {results : Results} {byDefault : Option SortKey}
    {options : SearchOptions} (h : results.check byDefault = .ok options)
    (hdefault : ∀ key ∈ byDefault, IsNamed key.field) : IsValidSearch options := by
  obtain ⟨hnum, hdialect, hfields, key, hkey, rfl⟩ := Results.check_eq_ok.mp h
  exact ⟨requireDialect_eq_ok.mp hdialect, requirePositive_eq_ok.mp hnum,
    requireReturnFields_eq_ok.mp hfields, isNamed_of_sortKey hkey hdefault⟩

theorem isNamed_distanceAlias : IsNamed distanceAlias := by
  unfold IsNamed
  decide

theorem isNamed_nearestFirst : ∀ key ∈ some nearestFirst, IsNamed key.field := by
  rintro key ⟨⟩
  exact isNamed_distanceAlias

/-- A field is added to the others unless it is among them. -/
theorem mem_withField {name field : String} {fields : List String} :
    field ∈ withField name fields ↔ field ∈ fields ∨ field = name := by
  unfold withField
  split
  · next h =>
    have hmem : name ∈ fields := List.contains_iff_mem.mp h
    exact ⟨.inl, fun hfield => hfield.elim id fun heq => heq ▸ hmem⟩
  · rw [List.mem_append, List.mem_singleton]

/-- Options are valid with the distance among their fields as well, which has a
name. -/
theorem isValidSearch_returningDistance {options : SearchOptions} (h : IsValidSearch options) :
    IsValidSearch (returningDistance options) := by
  unfold returningDistance
  split
  · exact h
  · refine { h with fields_named := fun field hfield => ?_ }
    obtain hfield | rfl := mem_withField.mp hfield
    · exact h.fields_named field hfield
    · exact isNamed_distanceAlias

/-- The distance is among the fields, if there are any. -/
theorem distanceAlias_mem_returningDistance {options : SearchOptions}
    (h : (returningDistance options).returnFields ≠ []) :
    distanceAlias ∈ (returningDistance options).returnFields := by
  unfold returningDistance at h ⊢
  split
  · next hempty =>
    rw [if_pos hempty] at h
    exact absurd (List.isEmpty_iff.mp hempty) h
  · exact mem_withField.mpr (.inr rfl)

/-! ## Values of placeholders -/

/-- The parameters of values under different names, among which are the
payloads of the vectors and no other bytes. -/
theorem holdValues_ofList {vectors : List (String × Embedding)} {count : UInt64}
    {values : List (String × Parameter)} (hnodup : (Parameters.names values).Nodup)
    (hmade : ∀ name vector, (name, vector) ∈ vectors → vector.Made)
    (hneighbours : ∀ value, (neighboursParam, value) ∈ values → value = .ofCount count)
    (hvectors : ∀ name vector, (name, vector) ∈ vectors → (name, .bytes vector.payload) ∈ values)
    (hbytes : ∀ name bytes, (name, .bytes bytes) ∈ values → ∃ vector, (name, vector) ∈ vectors) :
    HoldValues vectors count (Parameters.ofList values) where
  neighbours_eq value hvalue := hneighbours value ((Parameters.mem_ofList hnodup).mp hvalue)
  vector_iff name vector hvector value := by
    have hpayload := hvectors name vector hvector
    rw [Parameters.mem_ofList hnodup]
    constructor
    · exact fun hvalue => Parameters.eq_of_mem hnodup hvalue hpayload
    · rintro rfl
      exact hpayload
  payload name vector hvector := by
    have hmade := (hmade name vector hvector).hasPayload
    exact ⟨hmade.payload_ne_nil, hmade.length_payload⟩
  exists_vector name bytes h := hbytes name bytes ((Parameters.mem_ofList hnodup).mp h)

/-- The parameters of a query over one vector. -/
theorem holdValues_ofList_single {vector : Embedding} {count : UInt64}
    {values : List (String × Parameter)} (hnodup : (Parameters.names values).Nodup)
    (made : vector.Made)
    (hneighbours : ∀ value, (neighboursParam, value) ∈ values → value = .ofCount count)
    (hvector : (vectorParam, .bytes vector.payload) ∈ values)
    (hbytes : ∀ name bytes, (name, .bytes bytes) ∈ values → name = vectorParam) :
    HoldValues [(vectorParam, vector)] count (Parameters.ofList values) := by
  refine holdValues_ofList hnodup ?_ hneighbours ?_ ?_
  · intro name other hother
    cases List.mem_singleton.mp hother
    exact made
  · intro name other hother
    cases List.mem_singleton.mp hother
    exact hvector
  · intro name bytes h
    exact ⟨vector, List.mem_singleton.mpr (congrArg (·, vector) (hbytes name bytes h))⟩

/-- The parameters of a search for neighbours: their number, the vector and
values that are no bytes. -/
theorem holdValues_ofList_neighbours {vector : Embedding} {count : UInt64}
    {rest : List (String × Parameter)}
    (hnodup : (neighboursParam :: vectorParam :: Parameters.names rest).Nodup) (made : vector.Made)
    (hrest : ∀ name bytes, (name, .bytes bytes) ∉ rest) :
    HoldValues [(vectorParam, vector)] count (Parameters.ofList
      ((neighboursParam, .ofCount count) :: (vectorParam, .bytes vector.payload) :: rest)) := by
  have hnames : (Parameters.names
      ((neighboursParam, .ofCount count) :: (vectorParam, .bytes vector.payload) :: rest)).Nodup :=
    hnodup
  refine holdValues_ofList_single hnames made
    (fun value hvalue => Parameters.eq_of_mem hnames hvalue List.mem_cons_self)
    (List.mem_cons_of_mem _ List.mem_cons_self) ?_
  intro name bytes hbytes
  rcases List.mem_cons.mp hbytes with h | h
  · cases h
  · rcases List.mem_cons.mp h with h | h
    · exact (Prod.mk.inj h).1
    · exact absurd h (hrest name bytes)

/-- No placeholder has a value. -/
theorem holdValues_nil (count : UInt64) : HoldValues [] count [] where
  neighbours_eq _ h := by cases h
  vector_iff _ _ h := by cases h
  payload _ _ h := by cases h
  exists_vector _ _ h := by cases h

/-! ## What a build lets through -/

/-- A search is valid when its options and its values are. -/
theorem Built.isValid_of_search {query : Built} {options : SearchOptions}
    (hcommand : query.compile.command = .search options) (hcounts : ¬query.countsOnly)
    (hoptions : IsValidSearch options)
    (hscorer : query.searchesText → ∃ scorer, options.scorer = some scorer ∧ IsNamed scorer)
    (hdistance : query.yieldsDistance → options.returnFields ≠ [] →
      distanceAlias ∈ options.returnFields)
    (hvalues : HoldValues query.vectors options.num query.compile.params) : query.IsValid where
  dialect_pos := by
    rw [hcommand]
    exact hoptions.dialect_pos
  count_pos _ := by
    rw [hcommand]
    exact hoptions.num_pos
  count_zero h := absurd h hcounts
  fields_named := by
    rw [hcommand]
    exact hoptions.fields_named
  sort_named := by
    rw [hcommand]
    intro field hfield
    obtain ⟨key, hkey, rfl⟩ := Option.map_eq_some_iff.mp hfield
    exact hoptions.sort_named key hkey
  scorer_named := by
    rw [hcommand]
    exact hscorer
  distance_mem := by
    rw [hcommand]
    exact hdistance
  holdValues := by
    rw [hcommand]
    exact hvalues

/-- An aggregation is valid when its pipeline and its values are. -/
theorem Built.isValid_of_aggregate {query : Built} {pipeline : Pipeline}
    (hcommand : query.compile.command = .aggregate pipeline) (hcounts : ¬query.countsOnly)
    (htext : ¬query.searchesText) (hyields : ¬query.yieldsDistance)
    (hdialect : 1 ≤ pipeline.dialect) (hmax : 1 ≤ pipeline.max)
    (hload : ∀ field ∈ pipeline.load, IsNamed field) (hsort : IsNamed pipeline.sortBy)
    (hvalues : HoldValues query.vectors pipeline.max query.compile.params) : query.IsValid where
  dialect_pos := by
    rw [hcommand]
    exact hdialect
  count_pos _ := by
    rw [hcommand]
    exact hmax
  count_zero h := absurd h hcounts
  fields_named := by
    rw [hcommand]
    exact hload
  sort_named := by
    rw [hcommand]
    rintro field ⟨⟩
    exact hsort
  scorer_named h := absurd h htext
  distance_mem h := absurd h hyields
  holdValues := by
    rw [hcommand]
    exact hvalues

/-- The settings of an index are no bytes. -/
theorem Tuning.bytes_notMem_params (tuning : Tuning) (name : String) (bytes : List UInt8) :
    (name, .bytes bytes) ∉ tuning.params := by
  simp [params, Parameter.ofCount]

/-- The placeholders of a search for neighbours have their values: the number of
neighbours, the vector, and settings of the index that are no bytes. -/
theorem Nearest.holdValues (query : Nearest) (made : query.vector.Made) :
    HoldValues [(vectorParam, query.vector)] query.options.num query.params :=
  holdValues_ofList_neighbours (nodup_names_values query.tuning) made
    query.tuning.bytes_notMem_params

/-- A search for neighbours that a build lets through is valid; one that returns
the distance may be sorted by it. -/
theorem Nearest.Draft.isValid {draft : Draft} {query : Nearest} (h : draft.build = .ok query)
    (made : draft.vector.Made) : (Built.nearest query).IsValid := by
  obtain ⟨-, clause, -, options, hoptions, rfl⟩ := build_eq_ok.mp h
  have hsearch : IsValidSearch options := isValidSearch_of_check hoptions <| by
    cases draft.returnScore with
    | true => exact isNamed_nearestFirst
    | false => rintro key ⟨⟩
  refine Built.isValid_of_search rfl not_false ?_ False.elim ?_ (Nearest.holdValues _ made)
  · dsimp only
    split
    · exact isValidSearch_returningDistance hsearch
    · exact hsearch
  · intro (hscore : draft.returnScore = true)
    dsimp only
    rw [if_pos hscore]
    exact distanceAlias_mem_returningDistance

/-- The vector of a range query is the value of its one placeholder. -/
theorem Range.holdValues (query : Range) (made : query.vector.Made) (count : UInt64) :
    HoldValues [(vectorParam, query.vector)] count query.params := by
  have hnodup : (Parameters.names [(vectorParam, .bytes query.vector.payload)]).Nodup :=
    List.nodup_singleton _
  refine holdValues_ofList_single hnodup made ?_ List.mem_cons_self ?_
  · intro value hvalue
    exact absurd (Prod.mk.inj (List.mem_singleton.mp hvalue)).1 (by decide)
  · intro name bytes hbytes
    exact (Prod.mk.inj (List.mem_singleton.mp hbytes)).1

/-- A range query that a build lets through is valid. It always yields the
distance, so that is always among the fields that are listed. -/
theorem Range.Draft.isValid {draft : Draft} {query : Range} (h : draft.build = .ok query)
    (made : draft.vector.Made) : (Built.range query).IsValid := by
  obtain ⟨threshold, -, epsilon, -, options, hoptions, rfl⟩ := build_eq_ok.mp h
  have hsearch := isValidSearch_of_check hoptions isNamed_nearestFirst
  exact Built.isValid_of_search rfl not_false (isValidSearch_returningDistance hsearch) False.elim
    (fun _ => distanceAlias_mem_returningDistance) (Range.holdValues _ made _)

/-- A full-text query that a build lets through is valid, and its scorer has a
name. -/
theorem FullText.Draft.isValid {draft : Draft} {query : FullText} (h : draft.build = .ok query) :
    (Built.fullText query).IsValid := by
  obtain ⟨-, -, hscorer, words, -, options, hoptions, rfl⟩ := build_eq_ok.mp h
  have hsearch := isValidSearch_of_check hoptions (by rintro key ⟨⟩)
  exact Built.isValid_of_search rfl not_false { hsearch with }
    (fun _ => ⟨draft.scorer, rfl, requireName_eq_ok.mp hscorer⟩) False.elim (holdValues_nil _)

/-- A listing that a build lets through is valid. -/
theorem Listing.Draft.isValid {draft : Draft} {query : Listing} (h : draft.build = .ok query) :
    (Built.listing query).IsValid := by
  obtain ⟨options, hoptions, rfl⟩ := build_eq_ok.mp h
  have hsearch := isValidSearch_of_check hoptions (by rintro key ⟨⟩)
  exact Built.isValid_of_search rfl not_false hsearch False.elim False.elim (holdValues_nil _)

/-- A count is valid in any dialect that exists: it asks for no results and
returns no fields. -/
theorem Count.isValid {query : Count} (h : 1 ≤ query.dialect) : (Built.count query).IsValid where
  dialect_pos := h
  count_pos hcounts := absurd trivial hcounts
  count_zero _ := ⟨rfl, rfl⟩
  fields_named field hfield := by cases hfield
  sort_named field hfield := by cases hfield
  scorer_named := False.elim
  distance_mem := False.elim
  holdValues := holdValues_nil _

/-- The placeholders of a hybrid query have their values: the number of
neighbours and the vector. -/
theorem Hybrid.holdValues (query : Hybrid) (made : query.vector.Made) :
    HoldValues [(vectorParam, query.vector)] query.numResults query.params := by
  have hnodup : [neighboursParam, vectorParam].Nodup := by decide
  have hnone (name : String) (bytes : List UInt8) : (name, Parameter.bytes bytes) ∉ [] :=
    List.not_mem_nil
  exact holdValues_ofList_neighbours hnodup made hnone

/-- A hybrid query that a build lets through is valid; it ranks by the blend, a
field that it computes itself. -/
theorem Hybrid.Draft.isValid {draft : Draft} {query : Hybrid} (h : draft.build = .ok query)
    (made : draft.vector.Made) : (Built.hybrid query).IsValid := by
  obtain ⟨-, -, hnum, hdialect, hfields, words, -, rfl⟩ := build_eq_ok.mp h
  have hsort : IsNamed hybridScoreAlias := by
    unfold IsNamed
    decide
  exact Built.isValid_of_aggregate rfl not_false not_false not_false
    (requireDialect_eq_ok.mp hdialect) (requirePositive_eq_ok.mp hnum)
    (requireReturnFields_eq_ok.mp hfields) hsort (Hybrid.holdValues _ made)

/-- No vector takes the placeholder of the number of neighbours. -/
theorem MultiVector.vectorName_ne_neighboursParam (position : Nat) :
    vectorName position ≠ neighboursParam := by
  intro h
  have hinitial := congrArg (fun name => name.toList.head?) h
  simp only [vectorName, String.toList_append] at hinitial
  cases hinitial

/-- Each of several vectors is the value of the placeholder that is numbered
like it. -/
theorem MultiVector.holdValues (query : MultiVector)
    (made : ∀ vector ∈ query.vectors, vector.Made) :
    HoldValues (Built.multiVector query).vectors query.numResults query.params := by
  have hpayloads : payloadsFrom 0 query.vectors = query.vectors.mapIdx fun i vector =>
      (vectorName i, .bytes vector.payload) := by
    simp only [payloadsFrom_eq, Nat.zero_add]
  refine holdValues_ofList (nodup_names_payloadsFrom 0 query.vectors) ?_ ?_ ?_ ?_
  · intro name vector hvector
    obtain ⟨i, hi, hpair⟩ := List.mem_mapIdx.mp hvector
    cases hpair
    exact made _ (List.getElem_mem hi)
  · intro value hvalue
    rw [hpayloads] at hvalue
    obtain ⟨i, hi, hpair⟩ := List.mem_mapIdx.mp hvalue
    exact absurd (Prod.mk.inj hpair).1 (vectorName_ne_neighboursParam i)
  · intro name vector hvector
    obtain ⟨i, hi, hpair⟩ := List.mem_mapIdx.mp hvector
    cases hpair
    rw [hpayloads]
    exact List.mem_mapIdx.mpr ⟨i, hi, rfl⟩
  · intro name bytes hbytes
    rw [hpayloads] at hbytes
    obtain ⟨i, hi, hpair⟩ := List.mem_mapIdx.mp hbytes
    obtain ⟨rfl, -⟩ := Prod.mk.inj hpair
    exact ⟨query.vectors[i], List.mem_mapIdx.mpr ⟨i, hi, rfl⟩⟩

/-- A query over several vectors that a build lets through is valid; it ranks by
the sum, a field that it computes itself. -/
theorem MultiVector.Draft.isValid {draft : Draft} {query : MultiVector}
    (h : draft.build = .ok query) (made : ∀ vector ∈ draft.vectors, vector.Made) :
    (Built.multiVector query).IsValid := by
  obtain ⟨-, hnum, hdialect, hfields, rfl⟩ := build_eq_ok.mp h
  have hsort : IsNamed combinedScoreAlias := by
    unfold IsNamed
    decide
  exact Built.isValid_of_aggregate rfl not_false not_false not_false
    (requireDialect_eq_ok.mp hdialect) (requirePositive_eq_ok.mp hnum)
    (requireReturnFields_eq_ok.mp hfields) hsort (MultiVector.holdValues _ made)

/-! ## Calls on builders and on built queries -/

/-- What no single setting changes, no settings change. -/
theorem foldl_set_eq {δ κ α : Type} {set : δ → κ → δ} {part : δ → α}
    (h : ∀ draft setting, part (set draft setting) = part draft) (settings : List κ) (draft : δ) :
    part (settings.foldl set draft) = part draft := by
  induction settings generalizing draft with
  | nil => rfl
  | cons setting settings ih => exact (ih _).trans (h draft setting)

/-- No setting of a search for neighbours changes its vector. -/
theorem Nearest.Draft.vector_set (draft : Draft) (setting : Setting) :
    (draft.set setting).vector = draft.vector := by
  cases setting <;> rfl

/-- No setting of a range query changes its vector. -/
theorem Range.Draft.vector_set (draft : Draft) (setting : Setting) :
    (draft.set setting).vector = draft.vector := by
  cases setting <;> rfl

/-- No setting of a hybrid query changes its vector. -/
theorem Hybrid.Draft.vector_set (draft : Draft) (setting : Setting) :
    (draft.set setting).vector = draft.vector := by
  cases setting <;> rfl

/-- The vectors of a builder are those that it was given. -/
theorem MultiVector.Draft.made_foldl_set {settings : List Setting} {draft : Draft}
    (made : ∀ vector ∈ draft.vectors, vector.Made)
    (given : ∀ vector, .vector vector ∈ settings → vector.Made) :
    ∀ vector ∈ (settings.foldl set draft).vectors, vector.Made := by
  induction settings generalizing draft with
  | nil => exact made
  | cons setting settings ih =>
    refine ih ?_ fun vector hvector => given vector (List.mem_cons_of_mem _ hvector)
    cases setting with
    | vector added =>
      intro vector hvector
      rcases List.mem_append.mp hvector with h | h
      · exact made vector h
      · cases List.mem_singleton.mp h
        exact given added List.mem_cons_self
    | _ => exact made

/-- The query was built by calls on a builder, and then changed by calls on
the query itself, which may have been refused. -/
inductive Built.Made : Built → Prop
  | nearest {vector : Embedding} (made : vector.Made) (settings : List Nearest.Setting)
    {query : Nearest} (h : (settings.foldl Nearest.Draft.set { vector }).build = .ok query)
    (changes : List OrderChange) : Made (.nearest (after OrderChange.call query changes))
  | range {vector : Embedding} (made : vector.Made) (settings : List Range.Setting)
    {query : Range} (h : (settings.foldl Range.Draft.set { vector }).build = .ok query)
    (changes : List Range.Change) : Made (.range (after Range.Change.call query changes))
  | fullText (text : String) (settings : List FullText.Setting)
    {query : FullText} (h : (settings.foldl FullText.Draft.set { text }).build = .ok query)
    (changes : List OrderChange) : Made (.fullText (after OrderChange.call query changes))
  | listing (restriction : Restriction) (settings : List ResultSetting)
    {query : Listing} (h : (settings.foldl Listing.Draft.set { restriction }).build = .ok query)
    (changes : List OrderChange) : Made (.listing (after OrderChange.call query changes))
  | count (restriction : Restriction) (dialects : List UInt32) {query : Count}
    (h : dialects.foldlM (fun query dialect => query.withDialect dialect) ({ restriction } : Count)
      = .ok query) : Made (.count query)
  | hybrid (text textField : String) {vector : Embedding} (made : vector.Made)
    (settings : List Hybrid.Setting) {query : Hybrid}
    (h : (settings.foldl Hybrid.Draft.set { text, textField, vector }).build = .ok query) :
    Made (.hybrid query)
  | multiVector {vectors : List Embedding} (made : ∀ vector ∈ vectors, vector.Made)
    (settings : List MultiVector.Setting)
    (given : ∀ vector, .vector vector ∈ settings → vector.Made) {query : MultiVector}
    (h : (settings.foldl MultiVector.Draft.set { vectors }).build = .ok query) :
    Made (.multiVector query)

/-- A count has a dialect that was checked, or the standard one. -/
theorem Count.dialect_pos_of_foldlM {dialects : List UInt32} {start query : Count}
    (hstart : 1 ≤ start.dialect)
    (h : dialects.foldlM (fun query dialect => query.withDialect dialect) start = .ok query) :
    1 ≤ query.dialect := by
  induction dialects generalizing start with
  | nil =>
    cases h
    exact hstart
  | cons dialect dialects ih =>
    obtain ⟨next, hnext, h⟩ := bind_eq_ok.mp h
    obtain ⟨⟨⟩, hdialect, hnext⟩ := bind_eq_ok.mp hnext
    cases hnext
    exact ih (requireDialect_eq_ok.mp hdialect) h

/-- A query that was built and changed by calls is valid. -/
theorem Built.Made.isValid {query : Built} (h : query.Made) : query.IsValid := by
  -- a changed query is what other settings of the same vector build
  cases h with
  | nearest made settings h changes =>
    refine Nearest.Draft.isValid (Nearest.rebuilds.build_settled h changes) ?_
    rwa [Nearest.Draft.settled, foldl_set_eq Nearest.Draft.vector_set]
  | range made settings h changes =>
    refine Range.Draft.isValid (Range.rebuilds.build_settled h changes) ?_
    rwa [Range.Draft.settled, foldl_set_eq Range.Draft.vector_set]
  | fullText text settings h changes =>
    exact FullText.Draft.isValid (FullText.rebuilds.build_settled h changes)
  | listing restriction settings h changes =>
    exact Listing.Draft.isValid (Listing.rebuilds.build_settled h changes)
  | count restriction dialects h =>
    have hdefault : 1 ≤ defaultDialect := by decide
    exact Count.isValid (Count.dialect_pos_of_foldlM hdefault h)
  | hybrid text textField made settings h =>
    refine Hybrid.Draft.isValid h ?_
    rwa [foldl_set_eq Hybrid.Draft.vector_set]
  | multiVector made settings given h =>
    exact MultiVector.Draft.isValid h (MultiVector.Draft.made_foldl_set made given)

end Query

/-! ## Specifications -/

/-- The vector of a specification was made from its elements. -/
theorem VectorSpec.made_of_toEmbedding {spec : VectorSpec} {vector : Embedding}
    (h : spec.toEmbedding = .ok vector) : vector.Made := by
  obtain ⟨made, hmade, h⟩ := bind_eq_ok.mp h
  obtain ⟨typed, htyped, h⟩ := bind_eq_ok.mp h
  have htypedMade : typed.Made := .withType (.make hmade) htyped
  split at h
  · cases h
    exact htypedMade
  · exact .withWeight htypedMade h

/-- The vectors of several specifications were made from their elements. -/
theorem VectorSpec.made_of_mapM {specs : List VectorSpec} {vectors : List Embedding}
    (h : specs.mapM VectorSpec.toEmbedding = .ok vectors) : ∀ vector ∈ vectors, vector.Made :=
  forall_mem_of_forall₂ (mapM_eq_ok.mp h) fun _ _ _ => made_of_toEmbedding

namespace QuerySpec

open Query (Built)

/-- The query of a specification, of the kind of the specification. -/
def build (defaults : Defaults) : QuerySpec → Except Invalid Built
  | nearest spec => do return .nearest (← spec.build defaults)
  | range spec => do return .range (← spec.build defaults)
  | fullText spec => do return .fullText (← spec.build defaults)
  | listing spec => do return .listing (← spec.build defaults)
  | count spec => do return .count (← spec.build defaults)
  | hybrid spec => do return .hybrid (← spec.build defaults)
  | multiVector spec => do return .multiVector (← spec.build defaults)

/-- A specification is compiled by building its query. -/
theorem exists_build_of_compile {spec : QuerySpec} {defaults : Defaults} {compiled : Compiled}
    (h : spec.compile defaults = .ok compiled) :
    ∃ query, spec.build defaults = .ok query ∧ query.compile = compiled := by
  cases spec
  all_goals
    obtain ⟨query, hquery, h⟩ := bind_eq_ok.mp h
    cases h
    exact ⟨_, bind_eq_ok.mpr ⟨query, hquery, rfl⟩, rfl⟩

/-- The query of a specification is valid: its vectors are made from
elements, and the rest is checked like the settings of a builder. -/
theorem isValid_of_build {spec : QuerySpec} {defaults : Defaults} {query : Built}
    (h : spec.build defaults = .ok query) : query.IsValid := by
  cases spec
  all_goals
    obtain ⟨query, hquery, h⟩ := bind_eq_ok.mp h
    cases h
  case nearest =>
    obtain ⟨vector, hvector, hquery⟩ := bind_eq_ok.mp hquery
    obtain ⟨restriction, -, hquery⟩ := bind_eq_ok.mp hquery
    exact Query.Nearest.Draft.isValid hquery (VectorSpec.made_of_toEmbedding hvector)
  case range =>
    obtain ⟨vector, hvector, hquery⟩ := bind_eq_ok.mp hquery
    obtain ⟨restriction, -, hquery⟩ := bind_eq_ok.mp hquery
    exact Query.Range.Draft.isValid hquery (VectorSpec.made_of_toEmbedding hvector)
  case fullText =>
    obtain ⟨restriction, -, hquery⟩ := bind_eq_ok.mp hquery
    exact Query.FullText.Draft.isValid hquery
  case listing =>
    obtain ⟨restriction, -, hquery⟩ := bind_eq_ok.mp hquery
    exact Query.Listing.Draft.isValid hquery
  case count =>
    obtain ⟨restriction, -, hquery⟩ := bind_eq_ok.mp hquery
    obtain ⟨⟨⟩, hdialect, hquery⟩ := bind_eq_ok.mp hquery
    cases hquery
    exact Query.Count.isValid (Query.requireDialect_eq_ok.mp hdialect)
  case hybrid =>
    obtain ⟨vector, hvector, hquery⟩ := bind_eq_ok.mp hquery
    obtain ⟨restriction, -, hquery⟩ := bind_eq_ok.mp hquery
    exact Query.Hybrid.Draft.isValid hquery (VectorSpec.made_of_toEmbedding hvector)
  case multiVector =>
    obtain ⟨vectors, hvectors, hquery⟩ := bind_eq_ok.mp hquery
    obtain ⟨restriction, -, hquery⟩ := bind_eq_ok.mp hquery
    exact Query.MultiVector.Draft.isValid hquery (VectorSpec.made_of_mapM hvectors)

end QuerySpec

/-! ## Every query -/

/-- **A query that exists is valid**: one that was built by calls on a
builder and changed by calls on the query, and one that a specification was
compiled to, whatever the defaults are. -/
theorem isValid_of_made_or_compiled :
    (∀ query : Query.Built, query.Made → query.IsValid) ∧
    ∀ (spec : QuerySpec) (defaults : Defaults) (compiled : Compiled),
      spec.compile defaults = .ok compiled →
        ∃ query, spec.build defaults = .ok query ∧ query.compile = compiled ∧ query.IsValid := by
  refine ⟨fun query => Query.Built.Made.isValid, ?_⟩
  intro spec defaults compiled h
  obtain ⟨query, hbuild, hcompile⟩ := QuerySpec.exists_build_of_compile h
  exact ⟨query, hbuild, hcompile, QuerySpec.isValid_of_build hbuild⟩

/-- A search for neighbours that returns a field and is sorted by another
after it was built, and a count of all documents. -/
theorem isValid_of_made_or_compiled_sorted :
    let vector : Embedding := {
      values := [Binary.zero]
      field := "embedding"
      dtype := .float32
      weight := Embedding.defaultWeight
      payload := [0, 0, 0, 0]
    }
    let settings := [Query.Nearest.Setting.result (.returnFields ["title"])]
    let changes := [Query.OrderChange.clearSort, .sortBy (.field "price")]
    (∃ query, (settings.foldl Query.Nearest.Draft.set { vector }).build = .ok query ∧
      (Query.Built.nearest (Query.after Query.OrderChange.call query changes)).Made ∧
      (Query.Built.nearest (Query.after Query.OrderChange.call query changes)).IsValid) ∧
    ∃ (compiled : Compiled) (query : Query.Built), (QuerySpec.count {}).compile {} = .ok compiled ∧
      query.compile = compiled ∧ query.IsValid := by
  intro vector settings changes
  have hmake : Embedding.make [Binary.zero] "embedding" = .ok vector := rfl
  have hmade (query : Query.Nearest)
      (h : (settings.foldl Query.Nearest.Draft.set { vector }).build = .ok query) :
      (Query.Built.nearest (Query.after Query.OrderChange.call query changes)).Made :=
    .nearest (.make hmake) settings h changes
  have hcompile : ∃ compiled, (QuerySpec.count {}).compile {} = .ok compiled := ⟨_, rfl⟩
  obtain ⟨compiled, hcompile⟩ := hcompile
  obtain ⟨query, -, hquery⟩ := isValid_of_made_or_compiled.2 (.count {}) {} compiled hcompile
  exact ⟨⟨_, rfl, hmade _ rfl, isValid_of_made_or_compiled.1 _ (hmade _ rfl)⟩, compiled, query,
    hcompile, hquery⟩

end SearchQuery
