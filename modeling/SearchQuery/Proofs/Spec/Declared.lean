import SearchQuery.Proofs.Spec.Keys

/-!
# No key is ignored where it has no place

A query file is refused when an object in it has a key that is not declared
for its kind of object, whatever the depth, with two exceptions: keys of a
sort order and filters that match every document have their other keys
passed over (`passesOver`).

## What is proved

`QuerySpec.allDeclared_of_read` — every accepted document is `AllDeclared`
but for those two. Each reader has its lemma, from the parts of a query to
the seven kinds of queries; the filters are one induction over the tree, with
a lemma for each function that reads them.

The exceptions are real: what a sort key does not know makes no difference
to it (`SortKey.ofDocument?_cons_unknown`), nor does anything to a filter that
matches every document (`FilterSpec.ofDocument?_of_matchAll`), and there are
queries of either sort (`QuerySpec.accepts_undeclared`).
-/

namespace SearchQuery

/-! ## Parts of a query -/

/-- A vector that is read has no key but those declared for one. -/
theorem VectorSpec.reads : Reads .vector VectorSpec.ofDocument? := by
  intro d spec h
  have hobject : IsObjectOf (Shape.vector.keysOfKind none) d := by
    refine isObjectOf_of_bind (by decide) ?_ h
    intro entries _ hnodup h
    obtain ⟨_, hfield, h⟩ := Option.bind_eq_some_iff.mp h
    obtain ⟨_, hvalues, h⟩ := Option.bind_eq_some_iff.mp h
    obtain ⟨_, hdtype, h⟩ := Option.bind_eq_some_iff.mp h
    obtain ⟨_, hweight, -⟩ := Option.bind_eq_some_iff.mp h
    simp only [Shape.keysOfKind, List.forall_mem_cons]
    exact ⟨Reads.text.required hnodup hfield, Reads.single.plainList.required hnodup hvalues,
      Reads.keyword.withDefault hnodup hdtype, Reads.double.withDefault hnodup hweight,
      List.forall_mem_nil _⟩
  cases d with
  | _ => exact hobject

/-- A text clause that is read has no key but its field and its text. -/
theorem ClauseSpec.reads : Reads .clause ClauseSpec.ofDocument? := by
  intro d spec h
  have hobject : IsObjectOf (Shape.clause.keysOfKind none) d := by
    refine isObjectOf_of_bind (by decide) ?_ h
    intro entries _ hnodup h
    obtain ⟨_, hfield, h⟩ := Option.bind_eq_some_iff.mp h
    obtain ⟨_, htext, -⟩ := Option.bind_eq_some_iff.mp h
    simp only [Shape.keysOfKind, List.forall_mem_cons]
    exact ⟨Reads.text.required hnodup hfield, Reads.text.required hnodup htext,
      List.forall_mem_nil _⟩
  cases d with
  | _ => exact hobject

/-- A field that is read has no key but its name and its weight. -/
theorem FieldSpec.reads : Reads .field FieldSpec.ofDocument? := by
  intro d spec h
  have hobject : IsObjectOf (Shape.field.keysOfKind none) d := by
    refine isObjectOf_of_bind (by decide) ?_ h
    intro entries _ hnodup h
    obtain ⟨_, hfield, h⟩ := Option.bind_eq_some_iff.mp h
    obtain ⟨_, hweight, -⟩ := Option.bind_eq_some_iff.mp h
    simp only [Shape.keysOfKind, List.forall_mem_cons]
    exact ⟨Reads.text.required hnodup hfield, Reads.double.withDefault hnodup hweight,
      List.forall_mem_nil _⟩
  cases d with
  | _ => exact hobject

/-- A variant is the one key of a record, or no key at all. -/
theorem allDeclared_of_variant? {shape : Shape} {d : Document} {name : String}
    {value : Option Document} (h : d.variant? = some (name, value))
    (hkey : ∀ entries, (shape.keys entries).lookup name = some .plain)
    (hvalue : ∀ v ∈ value, AllDeclared passesOver .plain v) : AllDeclared passesOver shape d := by
  unfold Document.variant? at h
  split at h
  · exact trivial
  · next given v =>
    cases h
    refine entriesDeclared_iff.mpr ?_
    intro entry hentry
    obtain rfl := List.mem_singleton.mp hentry
    rw [hkey]
    exact hvalue v rfl
  · cases h

/-- What carries nothing has no keys. -/
theorem allDeclared_of_isNothing {v : Document} (h : v.isNothing = true) :
    AllDeclared passesOver .plain v := by
  unfold Document.isNothing at h
  split at h
  · exact trivial
  · exact trivial
  · cases h

/-- A name beside which nothing stands. -/
theorem allDeclared_of_name {shape : Shape} {d : Document} {name : String}
    {value : Option Document} (h : d.variant? = some (name, value))
    (hkey : ∀ entries, (shape.keys entries).lookup name = some .plain)
    (hvalue : value.all Document.isNothing = true) : AllDeclared passesOver shape d := by
  refine allDeclared_of_variant? h hkey ?_
  rintro v rfl
  exact allDeclared_of_isNothing hvalue

/-- Stop words are a name beside which nothing stands, or the one that a list of
words stands beside. -/
theorem Stopwords.reads : Reads .stopwords Stopwords.inFile? := by
  intro d words h
  obtain ⟨⟨name, value⟩, hvariant, h⟩ := Option.bind_eq_some_iff.mp h
  by_cases hnone : (name == "none" && value.all Document.isNothing) = true
  · obtain ⟨hname, hvalue⟩ := Bool.and_eq_true_iff.mp hnone
    obtain rfl := eq_of_beq hname
    exact allDeclared_of_name hvariant (fun _ => rfl) hvalue
  by_cases henglish : (name == "english" && value.all Document.isNothing) = true
  · obtain ⟨hname, hvalue⟩ := Bool.and_eq_true_iff.mp henglish
    obtain rfl := eq_of_beq hname
    exact allDeclared_of_name hvariant (fun _ => rfl) hvalue
  by_cases hcustom : (name == "custom") = true
  · obtain rfl := eq_of_beq hcustom
    simp only [hnone, henglish, hcustom, if_true, if_false, Bool.false_eq_true] at h
    obtain ⟨v, hv, h⟩ := Option.bind_eq_some_iff.mp h
    obtain ⟨given, hgiven, -⟩ := Option.bind_eq_some_iff.mp h
    refine allDeclared_of_variant? hvariant (fun _ => rfl) ?_
    rintro other rfl
    cases hv
    exact Reads.text.plainList _ given hgiven
  · simp [hnone, henglish, hcustom] at h

/-- A comparison is a name beside which nothing stands. -/
theorem FilterSpec.comparison_reads : Reads .comparison FilterSpec.comparison? := by
  intro d comparison h
  obtain ⟨⟨name, value⟩, hvariant, h⟩ := Option.bind_eq_some_iff.mp h
  obtain ⟨hvalue, h⟩ := Option.ite_none_right_eq_some.mp h
  have hname := List.find?_some (p := fun c => comparisonName c == name) h
  obtain rfl := eq_of_beq hname
  exact allDeclared_of_name hvariant (fun _ => by cases comparison <;> rfl) hvalue

/-! ## Sort orders -/

/-- The keys of a sort key that are known are declared; what else it has is
passed over. -/
theorem SortKey.reads : Reads .sort SortKey.ofDocument? := by
  intro d key h
  obtain ⟨entries, hentries, h⟩ := Option.bind_eq_some_iff.mp h
  obtain ⟨_, hfield, h⟩ := Option.bind_eq_some_iff.mp h
  obtain ⟨_, hascending, -⟩ := Option.bind_eq_some_iff.mp h
  obtain ⟨given, rfl, rfl, hnodup⟩ | ⟨items, rfl, hlength, rfl⟩ := knownEntries?_eq_some hentries
  · have hkeys : ∀ key ∈ Shape.sort.keys given,
        Holds (given.filter fun entry => names.contains entry.1) key := by
      simp only [Shape.keys, Shape.keysOfKind, List.forall_mem_cons]
      exact ⟨Reads.text.required hnodup hfield, Reads.bool.withDefault hnodup hascending,
        List.forall_mem_nil _⟩
    refine entriesDeclared_iff.mpr ?_
    intro entry hentry
    split
    · next shape hshape =>
      have hkey := mem_of_lookup hshape
      have hname : entry.1 ∈ (Shape.sort.keys given).map Prod.fst :=
        List.mem_map.mpr ⟨_, hkey, rfl⟩
      exact hkeys _ hkey entry.2 (List.mem_filter.mpr ⟨hentry, List.contains_iff_mem.mpr hname⟩)
    · rfl
  · -- the values of one key, which have no keys themselves
    have hnodup := nodup_zip (by decide : names.Nodup) items
    have hfield : Holds (names.zip items) ("field", .sort) := Reads.text.required hnodup hfield
    have hascending : Holds (names.zip items) ("ascending", .sort) :=
      Reads.bool.withDefault hnodup hascending
    obtain _ | ⟨field, _ | ⟨ascending, _ | ⟨item, items⟩⟩⟩ := items
    · exact trivial
    · exact ⟨hfield field List.mem_cons_self, trivial⟩
    · exact ⟨hfield field List.mem_cons_self,
        hascending ascending (List.mem_cons_of_mem _ List.mem_cons_self), trivial⟩
    · simp [names] at hlength

/-- A key that is not known makes no difference. -/
theorem SortKey.ofDocument?_cons_unknown {name : String} (hname : name ∉ names) (value : Document)
    (entries : List (String × Document)) :
    ofDocument? (.record ((name, value) :: entries)) = ofDocument? (.record entries) := by
  rw [ofDocument?, ofDocument?, Document.knownEntries?, Document.knownEntries?,
    List.filter_cons_of_neg (by simpa using hname)]

namespace SortSpec

/-- A field with its direction is a pair of words. -/
theorem directed_reads : Reads .sort SortSpec.directed? := by
  intro d spec h
  unfold directed? at h
  split at h
  · exact ⟨trivial, trivial, trivial⟩
  · cases h

/-- Of a list of keys, each is read as a key. -/
theorem keys_reads : Reads .sort (Document.list? SortKey.ofDocument?) := by
  intro d keys h
  cases d with
  | list items => exact Reads.list SortKey.reads _ keys h
  | _ => cases h

/-- An order is read in one of its four spellings, and each passes over no more
than keys do. -/
theorem reads : Reads .sort SortSpec.ofDocument? := by
  intro d spec h
  simp only [ofDocument?, Option.orElse_eq_orElse, Option.orElse_eq_or, Option.or_eq_some_iff,
    Option.map_eq_some_iff] at h
  obtain ⟨name, hname, -⟩ | ⟨-, hdirected | ⟨-, ⟨key, hkey, -⟩ | ⟨-, keys, hkeys, -⟩⟩⟩ := h
  · exact Reads.text d name hname
  · exact directed_reads d spec hdirected
  · exact SortKey.reads d key hkey
  · exact keys_reads d keys hkeys

end SortSpec

/-! ## Filters -/

namespace FilterSpec

/-- The keys that are declared for a kind of filter are the ones that it is read
from. -/
theorem filterKeys_names (kind : Kind) : (Shape.filterKeys kind).map Prod.fst = kind.names := by
  cases kind <;> rfl

/-- No kind of filter is read from one key twice. -/
theorem names_nodup (kind : Kind) : kind.names.Nodup := by
  cases kind <;> decide

/-- A kind is a text or a number. -/
theorem kind_reads : Reads .plain Kind.ofDocument? := Reads.ofLeaf (fun _ => rfl) fun _ => rfl

/-- The keys of a filter of a kind. -/
theorem keysOfKind_filter {kind : Document} {named : Kind} (h : Kind.ofDocument? kind = some named) :
    Shape.filter.keysOfKind (some kind) = ("type", .plain) :: Shape.filterKeys named := by
  rw [Shape.keysOfKind, Option.bind_some, h]
  rfl

/-- A filter on one field is read from the keys that are declared for its
kind. -/
theorem leaf?_holds {kind : Kind} {entries : List (String × Document)} {spec : FilterSpec}
    (hnodup : (entries.map Prod.fst).Nodup) (h : leaf? kind entries = some spec) :
    ∀ key ∈ Shape.filterKeys kind, Holds entries key := by
  cases kind
  case text =>
    obtain ⟨_, hfield, h⟩ := Option.bind_eq_some_iff.mp h
    obtain ⟨_, hvalue, h⟩ := Option.bind_eq_some_iff.mp h
    obtain ⟨_, hnegate, -⟩ := Option.bind_eq_some_iff.mp h
    simp only [Shape.filterKeys, List.forall_mem_cons]
    exact ⟨Reads.text.required hnodup hfield, Reads.text.required hnodup hvalue,
      Reads.bool.withDefault hnodup hnegate, List.forall_mem_nil _⟩
  case exact | startsWith | fuzzy | pattern | custom =>
    obtain ⟨_, hfield, h⟩ := Option.bind_eq_some_iff.mp h
    obtain ⟨_, hvalue, -⟩ := Option.bind_eq_some_iff.mp h
    simp only [Shape.filterKeys, List.forall_mem_cons]
    exact ⟨Reads.text.required hnodup hfield, Reads.text.required hnodup hvalue,
      List.forall_mem_nil _⟩
  case tag =>
    obtain ⟨_, hfield, h⟩ := Option.bind_eq_some_iff.mp h
    obtain ⟨_, hvalues, h⟩ := Option.bind_eq_some_iff.mp h
    obtain ⟨_, hnegate, -⟩ := Option.bind_eq_some_iff.mp h
    simp only [Shape.filterKeys, List.forall_mem_cons]
    exact ⟨Reads.text.required hnodup hfield, Reads.text.plainList.withDefault hnodup hvalues,
      Reads.bool.withDefault hnodup hnegate, List.forall_mem_nil _⟩
  case numeric =>
    obtain ⟨_, hfield, h⟩ := Option.bind_eq_some_iff.mp h
    obtain ⟨_, hop, h⟩ := Option.bind_eq_some_iff.mp h
    obtain ⟨_, hvalue, -⟩ := Option.bind_eq_some_iff.mp h
    simp only [Shape.filterKeys, List.forall_mem_cons]
    exact ⟨Reads.text.required hnodup hfield, comparison_reads.required hnodup hop,
      Reads.double.required hnodup hvalue, List.forall_mem_nil _⟩
  case range =>
    obtain ⟨_, hfield, h⟩ := Option.bind_eq_some_iff.mp h
    obtain ⟨_, hmin, h⟩ := Option.bind_eq_some_iff.mp h
    obtain ⟨_, hmax, h⟩ := Option.bind_eq_some_iff.mp h
    obtain ⟨_, hends, -⟩ := Option.bind_eq_some_iff.mp h
    simp only [Shape.filterKeys, List.forall_mem_cons]
    exact ⟨Reads.text.required hnodup hfield, Reads.double.required hnodup hmin,
      Reads.double.required hnodup hmax, Reads.keyword.withDefault hnodup hends,
      List.forall_mem_nil _⟩
  case geoRadius =>
    obtain ⟨_, hfield, h⟩ := Option.bind_eq_some_iff.mp h
    obtain ⟨_, hlon, h⟩ := Option.bind_eq_some_iff.mp h
    obtain ⟨_, hlat, h⟩ := Option.bind_eq_some_iff.mp h
    obtain ⟨_, hradius, h⟩ := Option.bind_eq_some_iff.mp h
    obtain ⟨_, hunit, h⟩ := Option.bind_eq_some_iff.mp h
    obtain ⟨_, houtside, -⟩ := Option.bind_eq_some_iff.mp h
    simp only [Shape.filterKeys, List.forall_mem_cons]
    exact ⟨Reads.text.required hnodup hfield, Reads.double.required hnodup hlon,
      Reads.double.required hnodup hlat, Reads.double.required hnodup hradius,
      Reads.unit.withDefault hnodup hunit, Reads.bool.withDefault hnodup houtside,
      List.forall_mem_nil _⟩
  case geoBox =>
    obtain ⟨_, hfield, h⟩ := Option.bind_eq_some_iff.mp h
    obtain ⟨_, hminLon, h⟩ := Option.bind_eq_some_iff.mp h
    obtain ⟨_, hminLat, h⟩ := Option.bind_eq_some_iff.mp h
    obtain ⟨_, hmaxLon, h⟩ := Option.bind_eq_some_iff.mp h
    obtain ⟨_, hmaxLat, -⟩ := Option.bind_eq_some_iff.mp h
    simp only [Shape.filterKeys, List.forall_mem_cons]
    exact ⟨Reads.text.required hnodup hfield, Reads.double.required hnodup hminLon,
      Reads.double.required hnodup hminLat, Reads.double.required hnodup hmaxLon,
      Reads.double.required hnodup hmaxLat, List.forall_mem_nil _⟩
  all_goals cases h

/-- A filter that is no composite is an object of its kind. -/
theorem isObjectOf_of_leaf? {kind : Kind} {d : Document} {spec : FilterSpec}
    (h : (d.entries? kind.names).bind (leaf? kind) = some spec) :
    IsObjectOf (Shape.filterKeys kind) d := by
  rw [← filterKeys_names] at h
  refine isObjectOf_of_bind ?_ (fun entries spec => leaf?_holds) h
  rw [filterKeys_names]
  exact names_nodup kind

/-- What is left of an object beside its kind has one key if its entries are
accepted as that. -/
theorem isObjectOf_of_operand {entries : List (String × Document)} {kind rest : Document}
    (htyped : (Document.record entries).typed? = some (kind, rest)) {name : String}
    (hname : name ≠ "type") {shape : Shape} {given : List (String × Document)}
    (hgiven : rest.entries? [name] = some given) {value : Document}
    (hlookup : entries.lookup name = some value) (hvalue : AllDeclared passesOver shape value) :
    IsObjectOf [(name, shape)] rest := by
  refine isObjectOf_of_entries? hgiven (List.forall_mem_singleton.mpr ?_)
  intro other hother
  have hnodup := nodup_of_entries? (List.nodup_singleton name) hgiven
  obtain ⟨_, hentries, -, -, rfl⟩ | ⟨_, hentries, -⟩ := typed?_eq_some htyped
  · cases hentries
    obtain ⟨hrest, -⟩ | ⟨_, hrest, -⟩ := entries?_eq_some hgiven
    · cases hrest
      have hmem : (name, value) ∈ entries.filter fun entry => entry.1 != "type" :=
        List.mem_filter.mpr ⟨mem_of_lookup hlookup, bne_iff_ne.mpr hname⟩
      have hsame := (lookup_of_mem hnodup hother).symm.trans (lookup_of_mem hnodup hmem)
      cases hsame
      exact hvalue
    · cases hrest
  · cases hentries

/-- A filter that matches every document has no key that is held to
anything. -/
theorem allDeclared_of_matchAll {entries : List (String × Document)} {kind rest : Document}
    (htyped : (Document.record entries).typed? = some (kind, rest))
    (hkind : Kind.ofDocument? kind = some .matchAll) :
    AllDeclared passesOver .filter (.record entries) := by
  obtain ⟨_, hentries, hlookup, honly, -⟩ | ⟨_, hentries, -⟩ := typed?_eq_some htyped
  · cases hentries
    have hpasses : passesOver .filter entries = true := by
      rw [passesOver, hlookup, Option.bind_some, hkind]
      rfl
    rw [AllDeclared, hpasses, entriesDeclared_iff, Shape.keys, hlookup, keysOfKind_filter hkind]
    intro entry hentry
    split
    · next shape hshape =>
      obtain ⟨htype, rfl⟩ := Prod.mk.inj (List.mem_singleton.mp (mem_of_lookup hshape))
      obtain ⟨name, value⟩ := entry
      cases htype
      rw [honly value hentry]
      exact kind_reads kind _ hkind
    · rfl
  · cases hentries

/-- A filter that matches every document is read past everything else in it. -/
theorem ofDocument?_of_matchAll {entries : List (String × Document)} {kind rest : Document}
    (htyped : (Document.record entries).typed? = some (kind, rest))
    (hkind : Kind.ofDocument? kind = some .matchAll) :
    ofDocument? (.record entries) = some matchAll := by
  rw [ofDocument?, htyped]
  simp only [Option.bind_eq_bind, Option.bind_some, hkind, Option.pure_def]

mutual

/-- A filter is refused unless its keys are declared, at any depth, except
for those of a filter that matches every document. -/
theorem allDeclared_of_ofDocument? : ∀ (d : Document) (spec : FilterSpec),
    ofDocument? d = some spec → AllDeclared passesOver .filter d
  | .record entries, spec, h => by
    rw [ofDocument?] at h
    obtain ⟨⟨kind, rest⟩, htyped, h⟩ := Option.bind_eq_some_iff.mp h
    obtain ⟨named, hnamed, h⟩ := Option.bind_eq_some_iff.mp h
    have hkind := kind_reads kind named hnamed
    have hkeys := keysOfKind_filter hnamed
    cases named
    case matchAll => exact allDeclared_of_matchAll htyped hnamed
    case all | any =>
      obtain ⟨given, hgiven, h⟩ := Option.bind_eq_some_iff.mp h
      obtain ⟨operands, hoperands, -⟩ := Option.bind_eq_some_iff.mp h
      obtain ⟨value, hlookup, hvalue⟩ := exists_of_operandsIn? entries operands hoperands
      exact allDeclared_of_typed? (.inr rfl) htyped hkeys hkind
        (isObjectOf_of_operand htyped (by decide) hgiven hlookup hvalue)
    case not =>
      obtain ⟨given, hgiven, h⟩ := Option.bind_eq_some_iff.mp h
      obtain ⟨operand, hoperand, -⟩ := Option.bind_eq_some_iff.mp h
      obtain ⟨value, hlookup, hvalue⟩ := exists_of_operandIn? entries operand hoperand
      exact allDeclared_of_typed? (.inr rfl) htyped hkeys hkind
        (isObjectOf_of_operand htyped (by decide) hgiven hlookup hvalue)
    all_goals exact allDeclared_of_typed? (.inr rfl) htyped hkeys hkind (isObjectOf_of_leaf? h)
  | .list (kind :: items), spec, h => by
    rw [ofDocument?] at h
    obtain ⟨named, hnamed, h⟩ := Option.bind_eq_some_iff.mp h
    have hkind := kind_reads kind named hnamed
    have hkeys := keysOfKind_filter hnamed
    have htyped : (Document.list (kind :: items)).typed? = some (kind, .list items) := rfl
    refine allDeclared_of_typed? (.inr rfl) htyped hkeys hkind ?_
    cases named
    case matchAll =>
      obtain ⟨hitems, -⟩ := Option.ite_none_right_eq_some.mp h
      obtain rfl := List.isEmpty_iff.mp hitems
      exact trivial
    case all | any =>
      obtain ⟨operands, hoperands, -⟩ := Option.bind_eq_some_iff.mp h
      exact itemsDeclared_of_operandsAt? items operands hoperands
    case not =>
      obtain ⟨operand, hoperand, -⟩ := Option.bind_eq_some_iff.mp h
      exact itemsDeclared_of_operandAt? items operand hoperand
    all_goals exact isObjectOf_of_leaf? h
  | .list [], _, _ => trivial
  | .null, _, _ | .bool _, _, _ | .natural _, _, _ | .integer _, _, _ | .float _, _, _
  | .text _, _, _ | .date, _, _ | .unreadable, _, _ => trivial

/-- The operand in the entries of a negation is declared where it is found. -/
theorem exists_of_operandIn? : ∀ (entries : List (String × Document)) (spec : FilterSpec),
    operandIn? entries = some spec →
      ∃ value, entries.lookup "filter" = some value ∧ AllDeclared passesOver .filter value
  | [], _, h => by cases h
  | (name, value) :: entries, spec, h => by
    rw [operandIn?] at h
    by_cases hname : (name == "filter") = true
    · rw [if_pos hname] at h
      obtain rfl := eq_of_beq hname
      exact ⟨value, rfl, allDeclared_of_ofDocument? value spec h⟩
    · rw [if_neg hname] at h
      rw [lookup_cons_of_ne hname]
      exact exists_of_operandIn? entries spec h

/-- The operands in the entries of a combination are declared where they are
found. -/
theorem exists_of_operandsIn? : ∀ (entries : List (String × Document)) (specs : List FilterSpec),
    operandsIn? entries = some specs →
      ∃ value, entries.lookup "filters" = some value
        ∧ AllDeclared passesOver (.listOf .filter) value
  | [], _, h => by cases h
  | (name, value) :: entries, specs, h => by
    by_cases hname : (name == "filters") = true
    · obtain rfl := eq_of_beq hname
      refine ⟨value, rfl, ?_⟩
      cases value with
      | list items => exact itemsDeclared_map (allDeclared_of_ofDocuments? items specs h)
      | _ => cases h
    · rw [lookup_cons_of_ne hname]
      refine exists_of_operandsIn? entries specs ?_
      rw [← h]
      cases value with
      | _ => exact (if_neg hname).symm

/-- A negation written as a list has its one operand in it. -/
theorem itemsDeclared_of_operandAt? : ∀ (items : List Document) (spec : FilterSpec),
    operandAt? items = some spec → ItemsDeclared passesOver [.filter] items
  | [item], spec, h => ⟨allDeclared_of_ofDocument? item spec h, trivial⟩
  | [], _, h => by cases h
  | _ :: _ :: _, _, h => by cases h

/-- A combination written as a list has the list of its operands in it. -/
theorem itemsDeclared_of_operandsAt? : ∀ (items : List Document) (specs : List FilterSpec),
    operandsAt? items = some specs → ItemsDeclared passesOver [.listOf .filter] items
  | [.list items], specs, h =>
    ⟨itemsDeclared_map (allDeclared_of_ofDocuments? items specs h), trivial⟩
  | [], _, h => by cases h
  | .list _ :: _ :: _, _, h => by cases h
  | .record _ :: _, _, h | .null :: _, _, h | .bool _ :: _, _, h | .natural _ :: _, _, h
  | .integer _ :: _, _, h | .float _ :: _, _, h | .text _ :: _, _, h | .date :: _, _, h
  | .unreadable :: _, _, h => by cases h

/-- Of a list of filters every one is declared. -/
theorem allDeclared_of_ofDocuments? : ∀ (items : List Document) (specs : List FilterSpec),
    ofDocuments? items = some specs → ∀ item ∈ items, AllDeclared passesOver .filter item
  | [], _, _ => List.forall_mem_nil _
  | item :: items, specs, h => by
    rw [ofDocuments?] at h
    obtain ⟨operand, hoperand, h⟩ := Option.bind_eq_some_iff.mp h
    obtain ⟨operands, hoperands, -⟩ := Option.bind_eq_some_iff.mp h
    exact List.forall_mem_cons.mpr
      ⟨allDeclared_of_ofDocument? item operand hoperand,
        allDeclared_of_ofDocuments? items operands hoperands⟩

end

end FilterSpec

/-- A restriction is a fragment, which is a text, or a filter. -/
theorem RestrictionSpec.reads : Reads .filter RestrictionSpec.ofDocument? := by
  intro d spec h
  unfold ofDocument? at h
  split at h
  · exact trivial
  · obtain ⟨filter, hfilter, -⟩ := Option.map_eq_some_iff.mp h
    exact FilterSpec.allDeclared_of_ofDocument? d filter hfilter

/-! ## Kinds of queries -/

section Shared

variable {entries : List (String × Document)} (hnodup : (entries.map Prod.fst).Nodup)

include hnodup

/-- The settings of the results are read from the keys declared for them. -/
theorem ResultSpec.holds {spec : ResultSpec} (h : ofEntries? entries = some spec) :
    ∀ key ∈ Shape.resultKeys, Holds entries key := by
  obtain ⟨_, hfields, h⟩ := Option.bind_eq_some_iff.mp h
  obtain ⟨_, hresults, h⟩ := Option.bind_eq_some_iff.mp h
  obtain ⟨_, hoffset, h⟩ := Option.bind_eq_some_iff.mp h
  obtain ⟨_, hdialect, h⟩ := Option.bind_eq_some_iff.mp h
  obtain ⟨_, hsort, h⟩ := Option.bind_eq_some_iff.mp h
  obtain ⟨_, horder, -⟩ := Option.bind_eq_some_iff.mp h
  simp only [Shape.resultKeys, List.forall_mem_cons]
  exact ⟨Reads.text.plainList.withDefault hnodup hfields, Reads.count.optional hnodup hresults,
    Reads.count.withDefault hnodup hoffset, Reads.dialect.optional hnodup hdialect,
    SortSpec.reads.optional hnodup hsort, Reads.bool.withDefault hnodup horder,
    List.forall_mem_nil _⟩

/-- The settings of an index are read from the keys declared for them. -/
theorem TuningSpec.holds {tuning : Query.Tuning} (h : ofEntries? entries = some tuning) :
    ∀ key ∈ Shape.tuningKeys, Holds entries key := by
  obtain ⟨_, hef, h⟩ := Option.bind_eq_some_iff.mp h
  obtain ⟨_, hwindow, h⟩ := Option.bind_eq_some_iff.mp h
  obtain ⟨_, hhistory, h⟩ := Option.bind_eq_some_iff.mp h
  obtain ⟨_, hbuffer, h⟩ := Option.bind_eq_some_iff.mp h
  obtain ⟨_, hpolicy, h⟩ := Option.bind_eq_some_iff.mp h
  obtain ⟨_, hbatch, -⟩ := Option.bind_eq_some_iff.mp h
  simp only [Shape.tuningKeys, List.forall_mem_cons]
  exact ⟨Reads.count.optional hnodup hef, Reads.count.optional hnodup hwindow,
    Reads.keyword.optional hnodup hhistory, Reads.count.optional hnodup hbuffer,
    Reads.keyword.optional hnodup hpolicy, Reads.count.optional hnodup hbatch,
    List.forall_mem_nil _⟩

/-- A restriction that may be left out is read from its own key. -/
theorem RestrictionSpec.holds {filter : Option RestrictionSpec}
    (h : ofEntries? entries = some filter) : Holds entries ("filter", .filter) :=
  RestrictionSpec.reads.optional hnodup h

end Shared

/-- Every entry of a query for nearest neighbours has a key declared for it: its
own, those of the tuning and those of the results. -/
theorem NearestSpec.isObjectOf {d : Document} {spec : NearestSpec} (h : ofDocument? d = some spec) :
    IsObjectOf (Shape.queryKeys "vector") d := by
  refine isObjectOf_of_bind (by decide) ?_ h
  intro entries _ hnodup h
  obtain ⟨_, hvector, h⟩ := Option.bind_eq_some_iff.mp h
  obtain ⟨_, hfilter, h⟩ := Option.bind_eq_some_iff.mp h
  obtain ⟨_, hclause, h⟩ := Option.bind_eq_some_iff.mp h
  obtain ⟨_, hscore, h⟩ := Option.bind_eq_some_iff.mp h
  obtain ⟨_, htuning, h⟩ := Option.bind_eq_some_iff.mp h
  obtain ⟨_, hresults, -⟩ := Option.bind_eq_some_iff.mp h
  have hown : ∀ key ∈ Shape.nearestKeys, Holds entries key := by
    simp only [Shape.nearestKeys, List.forall_mem_cons]
    exact ⟨VectorSpec.reads.required hnodup hvector, RestrictionSpec.holds hnodup hfilter,
      ClauseSpec.reads.optional hnodup hclause, Reads.bool.withDefault hnodup hscore,
      List.forall_mem_nil _⟩
  exact List.forall_mem_append.mpr
    ⟨List.forall_mem_append.mpr ⟨hown, TuningSpec.holds hnodup htuning⟩,
      ResultSpec.holds hnodup hresults⟩

/-- Every entry of a range query has a key declared for it. -/
theorem RangeSpec.isObjectOf {d : Document} {spec : RangeSpec} (h : ofDocument? d = some spec) :
    IsObjectOf (Shape.queryKeys "range") d := by
  refine isObjectOf_of_bind (by decide) ?_ h
  intro entries _ hnodup h
  obtain ⟨_, hvector, h⟩ := Option.bind_eq_some_iff.mp h
  obtain ⟨_, hfilter, h⟩ := Option.bind_eq_some_iff.mp h
  obtain ⟨_, hthreshold, h⟩ := Option.bind_eq_some_iff.mp h
  obtain ⟨_, hepsilon, h⟩ := Option.bind_eq_some_iff.mp h
  obtain ⟨_, hnormalize, h⟩ := Option.bind_eq_some_iff.mp h
  obtain ⟨_, hresults, -⟩ := Option.bind_eq_some_iff.mp h
  have hown : ∀ key ∈ Shape.rangeKeys, Holds entries key := by
    simp only [Shape.rangeKeys, List.forall_mem_cons]
    exact ⟨VectorSpec.reads.required hnodup hvector, RestrictionSpec.holds hnodup hfilter,
      Reads.double.optional hnodup hthreshold, Reads.double.optional hnodup hepsilon,
      Reads.bool.withDefault hnodup hnormalize, List.forall_mem_nil _⟩
  exact List.forall_mem_append.mpr ⟨hown, ResultSpec.holds hnodup hresults⟩

/-- Every entry of a full-text query has a key declared for it. -/
theorem FullTextSpec.isObjectOf {d : Document} {spec : FullTextSpec}
    (h : ofDocument? d = some spec) : IsObjectOf (Shape.queryKeys "text") d := by
  refine isObjectOf_of_bind (by decide) ?_ h
  intro entries _ hnodup h
  obtain ⟨_, htext, h⟩ := Option.bind_eq_some_iff.mp h
  obtain ⟨_, hfields, h⟩ := Option.bind_eq_some_iff.mp h
  obtain ⟨_, hfilter, h⟩ := Option.bind_eq_some_iff.mp h
  obtain ⟨_, hstopwords, h⟩ := Option.bind_eq_some_iff.mp h
  obtain ⟨_, hscorer, h⟩ := Option.bind_eq_some_iff.mp h
  obtain ⟨_, hscore, h⟩ := Option.bind_eq_some_iff.mp h
  obtain ⟨_, hresults, -⟩ := Option.bind_eq_some_iff.mp h
  have hown : ∀ key ∈ Shape.fullTextKeys, Holds entries key := by
    simp only [Shape.fullTextKeys, List.forall_mem_cons]
    exact ⟨Reads.text.required hnodup htext, FieldSpec.reads.list.required hnodup hfields,
      RestrictionSpec.holds hnodup hfilter, Stopwords.reads.withDefault hnodup hstopwords,
      Reads.text.optional hnodup hscorer, Reads.bool.withDefault hnodup hscore,
      List.forall_mem_nil _⟩
  exact List.forall_mem_append.mpr ⟨hown, ResultSpec.holds hnodup hresults⟩

/-- Every entry of a listing has a key declared for it. -/
theorem ListingSpec.isObjectOf {d : Document} {spec : ListingSpec} (h : ofDocument? d = some spec) :
    IsObjectOf (Shape.queryKeys "filter") d := by
  refine isObjectOf_of_bind (by decide) ?_ h
  intro entries _ hnodup h
  obtain ⟨_, hfilter, h⟩ := Option.bind_eq_some_iff.mp h
  obtain ⟨_, hresults, -⟩ := Option.bind_eq_some_iff.mp h
  exact List.forall_mem_cons.mpr
    ⟨RestrictionSpec.holds hnodup hfilter, ResultSpec.holds hnodup hresults⟩

/-- Every entry of a count has a key declared for it. -/
theorem CountSpec.isObjectOf {d : Document} {spec : CountSpec} (h : ofDocument? d = some spec) :
    IsObjectOf (Shape.queryKeys "count") d := by
  refine isObjectOf_of_bind (by decide) ?_ h
  intro entries _ hnodup h
  obtain ⟨_, hfilter, h⟩ := Option.bind_eq_some_iff.mp h
  obtain ⟨_, hdialect, -⟩ := Option.bind_eq_some_iff.mp h
  change ∀ key ∈ Shape.countKeys, Holds entries key
  simp only [Shape.countKeys, List.forall_mem_cons]
  exact ⟨RestrictionSpec.holds hnodup hfilter, Reads.dialect.optional hnodup hdialect,
    List.forall_mem_nil _⟩

/-- Every entry of a hybrid query has a key declared for it. -/
theorem HybridSpec.isObjectOf {d : Document} {spec : HybridSpec} (h : ofDocument? d = some spec) :
    IsObjectOf (Shape.queryKeys "hybrid") d := by
  refine isObjectOf_of_bind (by decide) ?_ h
  intro entries _ hnodup h
  obtain ⟨_, htext, h⟩ := Option.bind_eq_some_iff.mp h
  obtain ⟨_, htextField, h⟩ := Option.bind_eq_some_iff.mp h
  obtain ⟨_, hvector, h⟩ := Option.bind_eq_some_iff.mp h
  obtain ⟨_, halpha, h⟩ := Option.bind_eq_some_iff.mp h
  obtain ⟨_, hfilter, h⟩ := Option.bind_eq_some_iff.mp h
  obtain ⟨_, hstopwords, h⟩ := Option.bind_eq_some_iff.mp h
  obtain ⟨_, hresults, h⟩ := Option.bind_eq_some_iff.mp h
  obtain ⟨_, hfields, h⟩ := Option.bind_eq_some_iff.mp h
  obtain ⟨_, hdialect, -⟩ := Option.bind_eq_some_iff.mp h
  change ∀ key ∈ Shape.hybridKeys, Holds entries key
  simp only [Shape.hybridKeys, List.forall_mem_cons]
  exact ⟨Reads.text.required hnodup htext, Reads.text.required hnodup htextField,
    VectorSpec.reads.required hnodup hvector, Reads.double.optional hnodup halpha,
    RestrictionSpec.holds hnodup hfilter, Stopwords.reads.optional hnodup hstopwords,
    Reads.count.optional hnodup hresults, Reads.text.plainList.withDefault hnodup hfields,
    Reads.dialect.optional hnodup hdialect, List.forall_mem_nil _⟩

/-- Every entry of a query over several vectors has a key declared for it. -/
theorem MultiVectorSpec.isObjectOf {d : Document} {spec : MultiVectorSpec}
    (h : ofDocument? d = some spec) : IsObjectOf (Shape.queryKeys "multi_vector") d := by
  refine isObjectOf_of_bind (by decide) ?_ h
  intro entries _ hnodup h
  obtain ⟨_, hvectors, h⟩ := Option.bind_eq_some_iff.mp h
  obtain ⟨_, hfilter, h⟩ := Option.bind_eq_some_iff.mp h
  obtain ⟨_, hresults, h⟩ := Option.bind_eq_some_iff.mp h
  obtain ⟨_, hfields, h⟩ := Option.bind_eq_some_iff.mp h
  obtain ⟨_, hdialect, -⟩ := Option.bind_eq_some_iff.mp h
  change ∀ key ∈ Shape.multiVectorKeys, Holds entries key
  simp only [Shape.multiVectorKeys, List.forall_mem_cons]
  exact ⟨VectorSpec.reads.list.required hnodup hvectors, RestrictionSpec.holds hnodup hfilter,
    Reads.count.optional hnodup hresults, Reads.text.plainList.withDefault hnodup hfields,
    Reads.dialect.optional hnodup hdialect, List.forall_mem_nil _⟩

namespace QuerySpec

/-- What a query of a kind is read from has the keys of its kind. -/
theorem isObjectOf_of_ofKind? {kind : String} {d : Document} {spec : QuerySpec}
    (h : ofKind? kind d = some spec) : IsObjectOf (Shape.queryKeys kind) d := by
  simp only [ofKind?, beq_iff_eq] at h
  split_ifs at h with hkind hkind hkind hkind hkind hkind hkind
  all_goals
    subst hkind
    obtain ⟨own, hown, -⟩ := Option.map_eq_some_iff.mp h
    exact own.isObjectOf hown

/-- **No key of a query is ignored** where it has no place: every object in
an accepted query, at any depth, has only keys declared for its kind of
object, except for sort keys and filters that match every document, whose
other keys are passed over. -/
theorem allDeclared_of_read (d : Document) (spec : QuerySpec)
    (h : ofDocument? d = some spec) : AllDeclared passesOver .query d := by
  obtain ⟨⟨kind, rest⟩, htyped, h⟩ := Option.bind_eq_some_iff.mp h
  obtain ⟨name, hname, h⟩ := Option.bind_eq_some_iff.mp h
  have hkeys : Shape.query.keysOfKind (some kind) = ("type", .plain) :: Shape.queryKeys name := by
    rw [Shape.keysOfKind, Option.bind_some, hname]
    rfl
  exact allDeclared_of_typed? (.inl rfl) htyped hkeys (Reads.text kind name hname)
    (isObjectOf_of_ofKind? h)

/-- A query for a text with a filter of several levels. -/
theorem allDeclared_nested :
    let d : Document := .record [
      ("type", .text "text"), ("text", .text "space opera"),
      ("fields", .list [.record [("field", .text "title"), ("weight", .natural 2)]]),
      ("filter", .record [("type", .text "and"), ("filters", .list [
        .record [("type", .text "tag"), ("field", .text "genre"),
          ("values", .list [.text "drama"])],
        .record [("type", .text "not"), ("filter", .record [("type", .text "fuzzy"),
          ("field", .text "title"), ("term", .text "opera")])]])]),
      ("stopwords", .record [("custom", .list [.text "the"])]),
      ("sort_by", .record [("field", .text "price"), ("direction", .text "desc")])]
    (ofDocument? d).isSome = true ∧ AllDeclared passesOver .query d := by
  intro d
  obtain ⟨spec, hspec⟩ : ∃ spec, ofDocument? d = some spec := ⟨_, rfl⟩
  exact ⟨by rw [hspec]; rfl, allDeclared_of_read d spec hspec⟩

/-- A direction in a sort key and a field in a filter that matches every
document are accepted, though neither is declared there. -/
theorem accepts_undeclared :
    (∃ d, d = Document.record [("type", .text "filter"), ("sort_by", .record [
        ("field", .text "price"), ("ascending", .bool true), ("direction", .text "desc")])] ∧
      (ofDocument? d).isSome = true ∧ ¬AllDeclared Lenience.none .query d) ∧
    (∃ d, d = Document.record [("type", .text "count"), ("filter", .record [
        ("type", .text "match_all"), ("field", .text "genre")])] ∧
      (ofDocument? d).isSome = true ∧ ¬AllDeclared Lenience.none .query d) := by
  refine ⟨⟨_, rfl, rfl, ?_⟩, ⟨_, rfl, rfl, ?_⟩⟩
  · rintro ⟨-, ⟨-, -, hdirection, -⟩, -⟩
    cases hdirection
  · rintro ⟨-, ⟨-, hfield, -⟩, -⟩
    cases hfield

end QuerySpec

end SearchQuery
