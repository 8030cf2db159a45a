import Mathlib.Data.List.Nodup
import SearchQuery.Proofs.Names
import SearchQuery.Spec.Reading

/-!
# Keys of a specification

What a document is read as (`Shape`) says which keys its objects may have
and what each key's value is read as in turn, down to the last object in it.
A document whose keys are all of them declared is `AllDeclared`. Some objects
may be passed over: which ones is a parameter (`Lenience`).

A reader that refuses all other documents `Reads` its shape. A value that is
no object is read so whatever reads it, and an object is read so if its
entries are accepted by their names and each value is read so in turn
(`isObjectOf_of_bind`), or, where an entry names the kind of object, if what
is left without that entry is (`allDeclared_of_typed?`).
-/

namespace SearchQuery

open Document (required withDefault optional)

/-! ## Shapes -/

/-- What a document is read as. -/
inductive Shape where
  /-- A value that is no object: a text, a number, a list of such. -/
  | plain
  | query
  | vector
  | clause
  | field
  | filter
  | sort
  | stopwords
  | comparison
  | listOf (shape : Shape)
deriving DecidableEq

/-- Keys, each with what its value is read as. -/
abbrev Keys : Type := List (String × Shape)

namespace Shape

/-- The keys of a query that say which results to return. -/
def resultKeys : Keys :=
  [("return_fields", plain), ("num_results", plain), ("offset", plain), ("dialect", plain),
    ("sort_by", sort), ("in_order", plain)]

/-- The keys of a query that tune its index. -/
def tuningKeys : Keys :=
  [("ef_runtime", plain), ("search_window_size", plain), ("use_search_history", plain),
    ("search_buffer_capacity", plain), ("hybrid_policy", plain), ("batch_size", plain)]

/-- The keys of a query for nearest neighbours, beside the tuning and the
results. -/
def nearestKeys : Keys :=
  [("vector", vector), ("filter", filter), ("text_clause", clause), ("return_score", plain)]

/-- The keys of a query for vectors within a distance, beside the results. -/
def rangeKeys : Keys :=
  [("vector", vector), ("filter", filter), ("distance_threshold", plain), ("epsilon", plain),
    ("normalize_vector_distance", plain)]

/-- The keys of a query for the words of a text, beside the results. -/
def fullTextKeys : Keys :=
  [("text", plain), ("fields", listOf field), ("filter", filter), ("stopwords", stopwords),
    ("scorer", plain), ("return_score", plain)]

/-- The keys of a query for a number of documents. -/
def countKeys : Keys := [("filter", filter), ("dialect", plain)]

/-- The keys of a query that blends a text with a vector. -/
def hybridKeys : Keys :=
  [("text", plain), ("text_field", plain), ("vector", vector), ("alpha", plain),
    ("filter", filter), ("stopwords", stopwords), ("num_results", plain),
    ("return_fields", plain), ("dialect", plain)]

/-- The keys of a query over several vectors. -/
def multiVectorKeys : Keys :=
  [("vectors", listOf vector), ("filter", filter), ("num_results", plain),
    ("return_fields", plain), ("dialect", plain)]

/-- The keys of a query of a kind, without the kind. -/
def queryKeys (kind : String) : Keys :=
  if kind == "vector" then nearestKeys ++ tuningKeys ++ resultKeys
  else if kind == "range" then rangeKeys ++ resultKeys
  else if kind == "text" then fullTextKeys ++ resultKeys
  else if kind == "filter" then ("filter", filter) :: resultKeys
  else if kind == "count" then countKeys
  else if kind == "hybrid" then hybridKeys
  else if kind == "multi_vector" then multiVectorKeys
  else []

/-- The keys of a filter of a kind, without the kind. -/
def filterKeys : FilterSpec.Kind → Keys
  | .text => [("field", plain), ("value", plain), ("negate", plain)]
  | .exact => [("field", plain), ("phrase", plain)]
  | .startsWith => [("field", plain), ("prefix", plain)]
  | .fuzzy => [("field", plain), ("term", plain)]
  | .pattern => [("field", plain), ("pattern", plain)]
  | .tag => [("field", plain), ("values", plain), ("negate", plain)]
  | .numeric => [("field", plain), ("op", comparison), ("value", plain)]
  | .range => [("field", plain), ("min", plain), ("max", plain), ("inclusive", plain)]
  | .geoRadius =>
    [("field", plain), ("lon", plain), ("lat", plain), ("radius", plain), ("unit", plain),
      ("outside", plain)]
  | .geoBox =>
    [("field", plain), ("min_lon", plain), ("min_lat", plain), ("max_lon", plain),
      ("max_lat", plain)]
  | .custom => [("field", plain), ("expression", plain)]
  | .matchAll => []
  | .all | .any => [("filters", listOf filter)]
  | .not => [("filter", filter)]

/-- The keys of an object whose kind, if it has kinds, is named by a
document. -/
def keysOfKind (shape : Shape) (kind : Option Document) : Keys :=
  match shape with
  | query => ("type", plain) :: ((kind.bind Document.text?).map queryKeys).getD []
  | filter => ("type", plain) :: ((kind.bind FilterSpec.Kind.ofDocument?).map filterKeys).getD []
  | vector => [("field", plain), ("values", plain), ("dtype", plain), ("weight", plain)]
  | clause => [("field", plain), ("text", plain)]
  | field => [("field", plain), ("weight", plain)]
  | sort => [("field", plain), ("ascending", plain)]
  | stopwords => [("none", plain), ("english", plain), ("custom", plain)]
  | comparison =>
    [("eq", plain), ("ne", plain), ("gt", plain), ("gte", plain), ("lt", plain), ("lte", plain)]
  | plain | listOf _ => []

/-- The keys declared for an object with these entries. -/
def keys (shape : Shape) (entries : List (String × Document)) : Keys :=
  shape.keysOfKind (entries.lookup "type")

/-- What the items of a list are read as: several of one shape, or the values
of an object in the order of its keys. -/
def items (shape : Shape) (items : List Document) : List Shape :=
  match shape with
  | listOf shape => items.map fun _ => shape
  | plain => items.map fun _ => plain
  | sort => items.map fun _ => sort
  | shape => (shape.keysOfKind items.head?).map Prod.snd

end Shape

/-! ## Documents -/

/-- Which objects may have keys that are not declared. -/
abbrev Lenience : Type := Shape → List (String × Document) → Bool

/-- No object may. -/
def Lenience.none : Lenience := fun _ _ => false

section

variable (lenience : Lenience)

mutual

/-- The keys of every object in a document are declared, at any depth, except
where lenience is shown. -/
def AllDeclared : Shape → Document → Prop
  | shape, .record entries =>
    EntriesDeclared (lenience shape entries) (shape.keys entries) entries
  | shape, .list items => ItemsDeclared (shape.items items) items
  | _, _ => True

/-- Every entry has a declared key or passes without one, and so on in its
value. -/
def EntriesDeclared (lenient : Bool) (keys : Keys) : List (String × Document) → Prop
  | [] => True
  | (name, value) :: entries =>
    (match keys.lookup name with
      | some shape => AllDeclared shape value
      | none => lenient = true) ∧ EntriesDeclared lenient keys entries

/-- The same of items, those past the last shape being plain. -/
def ItemsDeclared : List Shape → List Document → Prop
  | _, [] => True
  | [], item :: items => AllDeclared .plain item ∧ ItemsDeclared [] items
  | shape :: shapes, item :: items => AllDeclared shape item ∧ ItemsDeclared shapes items

end

end

/-- The objects whose undeclared keys are passed over: keys of a sort order
and filters that match every document. -/
def passesOver : Lenience
  | .sort, _ => true
  | .filter, entries =>
    (entries.lookup "type").bind FilterSpec.Kind.ofDocument? == some .matchAll
  | _, _ => false

section

variable {lenience : Lenience}

/-- Entries are declared one by one, in whatever order they come. -/
theorem entriesDeclared_iff {lenient : Bool} {keys : Keys} {entries : List (String × Document)} :
    EntriesDeclared lenience lenient keys entries ↔ ∀ entry ∈ entries,
      match keys.lookup entry.1 with
      | some shape => AllDeclared lenience shape entry.2
      | none => lenient = true := by
  induction entries with
  | nil => exact iff_of_true trivial (List.forall_mem_nil _)
  | cons entry entries ih => rw [EntriesDeclared, ih, List.forall_mem_cons]

/-- Items of one shape are declared when each of them is. -/
theorem itemsDeclared_map {shape : Shape} {items : List Document}
    (h : ∀ item ∈ items, AllDeclared lenience shape item) :
    ItemsDeclared lenience (items.map fun _ => shape) items := by
  induction items with
  | nil => exact trivial
  | cons item items ih =>
    obtain ⟨hitem, hitems⟩ := List.forall_mem_cons.mp h
    exact ⟨hitem, ih hitems⟩

end

/-! ## Readers -/

/-- A reader refuses a document unless the keys in it are declared, or passed
over. -/
def Reads {α : Type} (shape : Shape) (read : Document → Option α) : Prop :=
  ∀ d a, read d = some a → AllDeclared passesOver shape d

namespace Reads

variable {α : Type} {shape : Shape} {read : Document → Option α}

/-- A value that is neither a list nor an object has no keys. -/
theorem ofLeaf (hlist : ∀ items, read (.list items) = none)
    (hrecord : ∀ entries, read (.record entries) = none) : Reads shape read := by
  intro d a h
  cases d with
  | list items =>
    rw [hlist] at h
    cases h
  | record entries =>
    rw [hrecord] at h
    cases h
  | _ => exact trivial

/-- A text has no keys. -/
theorem text : Reads shape Document.text? := ofLeaf (fun _ => rfl) fun _ => rfl

theorem bool : Reads shape Document.bool? := ofLeaf (fun _ => rfl) fun _ => rfl

theorem count : Reads shape Document.count? := ofLeaf (fun _ => rfl) fun _ => rfl

theorem dialect : Reads shape Document.dialect? := ofLeaf (fun _ => rfl) fun _ => rfl

theorem double : Reads shape Document.double? := ofLeaf (fun _ => rfl) fun _ => rfl

theorem single : Reads shape Document.single? := ofLeaf (fun _ => rfl) fun _ => rfl

theorem unit : Reads shape FilterSpec.unit? := ofLeaf (fun _ => rfl) fun _ => rfl

/-- A word that is looked up has no keys. -/
theorem keyword {κ : Type} [Keyword κ] : Reads shape (@Keyword.ofDocument? κ _) :=
  ofLeaf (fun _ => rfl) fun _ => rfl

/-- The items of a list, each as it is read. -/
theorem mem_of_list? {items : List Document} {values : List α}
    (h : Document.list? read (.list items) = some values) :
    ∀ item ∈ items, ∃ a, read item = some a := by
  rw [Document.list?] at h
  induction items generalizing values with
  | nil => exact List.forall_mem_nil _
  | cons item items ih =>
    rw [List.mapM_cons] at h
    obtain ⟨a, ha, h⟩ := Option.bind_eq_some_iff.mp h
    obtain ⟨rest, hrest, -⟩ := Option.bind_eq_some_iff.mp h
    exact List.forall_mem_cons.mpr ⟨⟨a, ha⟩, ih hrest⟩

/-- A list is read item by item, and each is declared. -/
theorem list (hread : Reads shape read) : Reads (.listOf shape) (Document.list? read) := by
  intro d values h
  cases d with
  | list items =>
    refine itemsDeclared_map fun item hitem => ?_
    obtain ⟨a, ha⟩ := mem_of_list? h item hitem
    exact hread item a ha
  | _ => cases h

/-- A list of leaves has no keys. -/
theorem plainList (hread : Reads .plain read) : Reads .plain (Document.list? read) := by
  intro d values h
  cases d with
  | list items =>
    refine itemsDeclared_map fun item hitem => ?_
    obtain ⟨a, ha⟩ := mem_of_list? h item hitem
    exact hread item a ha
  | _ => cases h

end Reads

/-! ## Objects -/

/-- The values of a key in these entries are declared. -/
def Holds (entries : List (String × Document)) (key : String × Shape) : Prop :=
  ∀ value, (key.1, value) ∈ entries → AllDeclared passesOver key.2 value

namespace Reads

variable {α : Type} {shape : Shape} {read : Document → Option α}
  {entries : List (String × Document)} {name : String}

/-- An entry that has to be there is declared when it is read. -/
theorem required (hread : Reads shape read) (hnodup : (entries.map Prod.fst).Nodup) {a : α}
    (h : required entries name read = some a) : Holds entries (name, shape) := by
  intro value hmem
  rw [Document.required, lookup_of_mem hnodup hmem] at h
  exact hread value a h

/-- An entry that may be left out is declared, if it is there and read. -/
theorem withDefault (hread : Reads shape read) (hnodup : (entries.map Prod.fst).Nodup)
    {byDefault a : α} (h : withDefault entries name byDefault read = some a) :
    Holds entries (name, shape) := by
  intro value hmem
  rw [Document.withDefault, lookup_of_mem hnodup hmem] at h
  exact hread value a h

/-- An entry without a default is declared as well, if it is there and read. -/
theorem optional (hread : Reads shape read) (hnodup : (entries.map Prod.fst).Nodup)
    {a : Option α} (h : optional entries name read = some a) : Holds entries (name, shape) := by
  intro value hmem
  rw [Document.optional, lookup_of_mem hnodup hmem] at h
  split at h
  · next hnull =>
    cases hnull
    exact trivial
  · next d _ hsome =>
    cases hsome
    obtain ⟨a, ha, -⟩ := Option.map_eq_some_iff.mp h
    exact hread value a ha
  · next hnone => cases hnone

end Reads

/-- The entries of an object, or of the list of its values. -/
theorem entries?_eq_some {names : List String} {d : Document} {entries : List (String × Document)}
    (h : d.entries? names = some entries) :
    (d = .record entries ∧ (∀ entry ∈ entries, entry.1 ∈ names) ∧ (entries.map Prod.fst).Nodup) ∨
      ∃ items, d = .list items ∧ items.length ≤ names.length ∧ entries = names.zip items := by
  cases d with
  | record given =>
    simp only [Document.entries?, Option.ite_none_right_eq_some, Bool.and_eq_true,
      List.all_eq_true, List.contains_iff_mem, List.forall_mem_map, decide_eq_true_eq] at h
    obtain ⟨⟨hnames, hnodup⟩, hgiven⟩ := h
    cases hgiven
    exact .inl ⟨rfl, hnames, hnodup⟩
  | list items =>
    simp only [Document.entries?, Option.ite_none_right_eq_some] at h
    obtain ⟨hlength, hitems⟩ := h
    cases hitems
    exact .inr ⟨items, rfl, hlength, rfl⟩
  | _ => cases h

/-- The known entries of an object, or of the list of its values. -/
theorem knownEntries?_eq_some {names : List String} {d : Document}
    {entries : List (String × Document)} (h : d.knownEntries? names = some entries) :
    (∃ given, d = .record given ∧ entries = given.filter (fun entry => names.contains entry.1)
        ∧ (entries.map Prod.fst).Nodup) ∨
      ∃ items, d = .list items ∧ items.length ≤ names.length ∧ entries = names.zip items := by
  cases d with
  | record given =>
    rw [Document.knownEntries?] at h
    obtain ⟨hgiven, -, hnodup⟩ | ⟨items, hitems, -⟩ := entries?_eq_some h
    · cases hgiven
      exact .inl ⟨given, rfl, rfl, hnodup⟩
    · cases hitems
  | list items =>
    have h : (Document.list items).entries? names = some entries := h
    obtain ⟨hgiven, -⟩ | hitems := entries?_eq_some h
    · cases hgiven
    · exact .inr hitems
  | _ => cases h

/-- The names that the items of a list stand for are distinct. -/
theorem nodup_zip {names : List String} (hnames : names.Nodup) (items : List Document) :
    ((names.zip items).map Prod.fst).Nodup := by
  induction names generalizing items with
  | nil => exact List.nodup_nil
  | cons name names ih =>
    cases items with
    | nil => exact List.nodup_nil
    | cons item items =>
      obtain ⟨hname, hnames⟩ := List.nodup_cons.mp hnames
      refine List.nodup_cons.mpr ⟨?_, ih hnames items⟩
      intro hmem
      obtain ⟨⟨other, value⟩, hother, rfl⟩ := List.mem_map.mp hmem
      exact hname (List.of_mem_zip hother).1

/-- The names of accepted entries are distinct. -/
theorem nodup_of_entries? {names : List String} (hnames : names.Nodup) {d : Document}
    {entries : List (String × Document)} (h : d.entries? names = some entries) :
    (entries.map Prod.fst).Nodup := by
  obtain ⟨-, -, hnodup⟩ | ⟨items, -, -, rfl⟩ := entries?_eq_some h
  · exact hnodup
  · exact nodup_zip hnames items

/-- An object with these keys, or the list of its values. -/
def IsObjectOf (keys : Keys) : Document → Prop
  | .record entries => EntriesDeclared passesOver false keys entries
  | .list items => ItemsDeclared passesOver (keys.map Prod.snd) items
  | _ => True

/-- The values of a list are those of an object's keys, in their order. -/
theorem itemsDeclared_of_zip {keys : Keys} {items : List Document}
    (hlength : items.length ≤ keys.length)
    (h : ∀ key ∈ keys, Holds ((keys.map Prod.fst).zip items) key) :
    ItemsDeclared passesOver (keys.map Prod.snd) items := by
  induction keys generalizing items with
  | nil =>
    obtain rfl := List.length_eq_zero_iff.mp (Nat.le_zero.mp hlength)
    exact trivial
  | cons key keys ih =>
    cases items with
    | nil => exact trivial
    | cons item items =>
      obtain ⟨hkey, hkeys⟩ := List.forall_mem_cons.mp h
      refine ⟨hkey item List.mem_cons_self, ih (Nat.le_of_succ_le_succ hlength) ?_⟩
      intro other hother value hvalue
      exact hkeys other hother value (List.mem_cons_of_mem _ hvalue)

/-- What has no other entries than those of its keys is an object of them. -/
theorem isObjectOf_of_entries? {keys : Keys} {d : Document} {entries : List (String × Document)}
    (h : d.entries? (keys.map Prod.fst) = some entries) (hkeys : ∀ key ∈ keys, Holds entries key) :
    IsObjectOf keys d := by
  obtain ⟨rfl, hnames, -⟩ | ⟨items, rfl, hlength, rfl⟩ := entries?_eq_some h
  · refine entriesDeclared_iff.mpr ?_
    intro entry hentry
    split
    · next shape hshape =>
      exact hkeys _ (mem_of_lookup hshape) entry.2 hentry
    · next hnone =>
      obtain ⟨key, hkey, hname⟩ := List.mem_map.mp (hnames entry hentry)
      have hdiffers := List.lookup_eq_none_iff.mp hnone key hkey
      simp [hname] at hdiffers
  · exact itemsDeclared_of_zip (by simpa using hlength) hkeys

/-- A reader of entries reads an object of keys if it holds the value of
each of them to what it is read as. -/
theorem isObjectOf_of_bind {α : Type} {keys : Keys} (hnames : (keys.map Prod.fst).Nodup)
    {read : List (String × Document) → Option α}
    (hread : ∀ entries a, (entries.map Prod.fst).Nodup → read entries = some a →
      ∀ key ∈ keys, Holds entries key)
    {d : Document} {a : α} (h : (d.entries? (keys.map Prod.fst)).bind read = some a) :
    IsObjectOf keys d := by
  obtain ⟨entries, hentries, ha⟩ := Option.bind_eq_some_iff.mp h
  exact isObjectOf_of_entries? hentries
    (hread entries a (nodup_of_entries? hnames hentries) ha)

/-- Keys that are all of them declared are so with more lenience. -/
theorem EntriesDeclared.mono {lenience : Lenience} {keys : Keys}
    {entries : List (String × Document)} (lenient : Bool)
    (h : EntriesDeclared lenience false keys entries) :
    EntriesDeclared lenience lenient keys entries := by
  rw [entriesDeclared_iff] at h ⊢
  intro entry hentry
  have hdeclared := h entry hentry
  split at hdeclared
  · exact hdeclared
  · cases hdeclared

/-! ## Objects of a kind -/

/-- The entry that names the kind of an object is its one of that name, and
what is left are the others. -/
theorem typed?_eq_some {d kind rest : Document} (h : d.typed? = some (kind, rest)) :
    (∃ entries, d = .record entries ∧ entries.lookup "type" = some kind ∧
        (∀ value, ("type", value) ∈ entries → value = kind) ∧
        rest = .record (entries.filter fun entry => entry.1 != "type")) ∨
      ∃ items, d = .list (kind :: items) ∧ rest = .list items := by
  unfold Document.typed? at h
  split at h
  · next entries =>
    split at h
    · next name named hfilter =>
      cases h
      have honly : ∀ value, ("type", value) ∈ entries → ("type", value) = (name, kind) := by
        intro value hvalue
        have hmem : ("type", value) ∈ entries.filter fun entry => entry.1 == Document.typeName :=
          List.mem_filter.mpr ⟨hvalue, rfl⟩
        rw [hfilter] at hmem
        exact List.mem_singleton.mp hmem
      have hmem : (name, kind) ∈ entries.filter fun entry => entry.1 == Document.typeName := by
        rw [hfilter]
        exact List.mem_cons_self
      obtain ⟨hmem, hname⟩ := List.mem_filter.mp hmem
      obtain rfl : name = "type" := eq_of_beq hname
      refine .inl ⟨entries, rfl, ?_, fun value hvalue => congrArg Prod.snd (honly value hvalue), rfl⟩
      cases hlookup : entries.lookup "type" with
      | none => simpa using List.lookup_eq_none_iff.mp hlookup _ hmem
      | some value =>
        exact congrArg some (congrArg Prod.snd (honly value (mem_of_lookup hlookup)))
    · cases h
  · next items =>
    cases h
    exact .inr ⟨items, rfl, rfl⟩
  · cases h

/-- An object of a kind has the keys of its kind, beside the one that names
it. -/
theorem allDeclared_of_typed? {shape : Shape} (hshape : shape = .query ∨ shape = .filter)
    {d kind rest : Document} (h : d.typed? = some (kind, rest)) {keys : Keys}
    (hkeys : shape.keysOfKind (some kind) = ("type", .plain) :: keys)
    (hkind : AllDeclared passesOver .plain kind) (hrest : IsObjectOf keys rest) :
    AllDeclared passesOver shape d := by
  obtain ⟨entries, rfl, hlookup, honly, rfl⟩ | ⟨items, rfl, rfl⟩ := typed?_eq_some h
  · refine EntriesDeclared.mono _ (entriesDeclared_iff.mpr ?_)
    intro entry hentry
    rw [Shape.keys, hlookup, hkeys, List.lookup_cons]
    cases htype : entry.1 == "type" with
    | true =>
      obtain ⟨name, value⟩ := entry
      obtain rfl := eq_of_beq htype
      rw [honly value hentry]
      exact hkind
    | false =>
      have hother : (entry.1 != "type") = true := by rw [bne, htype]; rfl
      exact entriesDeclared_iff.mp hrest entry (List.mem_filter.mpr ⟨hentry, hother⟩)
  · have hitems : shape.items (kind :: items) = (("type", .plain) :: keys).map Prod.snd := by
      rw [← hkeys]
      obtain rfl | rfl := hshape <;> rfl
    rw [AllDeclared, hitems]
    exact ⟨hkind, hrest⟩

end SearchQuery
