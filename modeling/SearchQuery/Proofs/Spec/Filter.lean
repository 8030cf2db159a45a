import Mathlib
import SearchQuery.Proofs.Document.Values
import SearchQuery.Spec.Filter

/-!
# Filters are read as they were written

A filter is written as a record of its kind, and the kind decides how the
rest of the record is read (`FilterSpec.ofDocument?_ofKind`). What is left
is one case for each kind: a leaf reads its entries back, and a composite
its operands, by induction on the tree.

A number that is not finite has no written form, so the law is stated of
filters whose numbers are finite (`FilterSpec.IsFinite`).
-/

namespace SearchQuery

open Document (required withDefault entries?_record)

/-! ## Keywords -/

/-- A keyword is read from its canonical name. -/
theorem Keyword.ofDocument?_toDocument {α : Type} [Keyword α] {a : α}
    (h : Keyword.find? (Keyword.name a) = some a) :
    Keyword.ofDocument? (Keyword.toDocument a) = some a := h

theorem DataType.find?_name (type : DataType) : Keyword.find? (Keyword.name type) = some type := by
  cases type <;> rfl

theorem Inclusive.find?_name (ends : Inclusive) : Keyword.find? (Keyword.name ends) = some ends := by
  cases ends <;> rfl

namespace FilterSpec

/-- A unit is read from its canonical name, which has no white space. -/
theorem unit?_toDocument (unit : GeoUnit) : unit? (Keyword.toDocument unit) = some unit := by
  cases unit <;> rfl

theorem comparison?_name (comparison : Comparison) :
    comparison? (.text (comparisonName comparison)) = some comparison := by
  cases comparison <;> rfl

theorem ofName?_name (kind : Kind) : Kind.ofName? kind.name = some kind := by
  cases kind <;> rfl

/-! ## Numbers -/

mutual

/-- Every number of the filter is finite. -/
def IsFinite : FilterSpec → Prop
  | numeric _ _ value => value.isFinite = true
  | range _ min max _ => min.isFinite = true ∧ max.isFinite = true
  | geoRadius _ lon lat radius _ _ =>
    lon.isFinite = true ∧ lat.isFinite = true ∧ radius.isFinite = true
  | geoBox _ minLon minLat maxLon maxLat =>
    minLon.isFinite = true ∧ minLat.isFinite = true ∧ maxLon.isFinite = true
      ∧ maxLat.isFinite = true
  | all operands | any operands => AreFinite operands
  | not operand => operand.IsFinite
  | _ => True

/-- Every number of the filters is finite. -/
def AreFinite : List FilterSpec → Prop
  | [] => True
  | operand :: operands => operand.IsFinite ∧ AreFinite operands

end

/-! ## Entries by kind -/

/-- The kind of a record is passed over where its operand is looked for. -/
theorem operandIn?_type (kind : String) (entries : List (String × Document)) :
    operandIn? ((Document.typeName, .text kind) :: entries) = operandIn? entries := by
  rw [operandIn?]
  exact if_neg (by decide)

theorem operandsIn?_type (kind : String) (entries : List (String × Document)) :
    operandsIn? ((Document.typeName, .text kind) :: entries) = operandsIn? entries := by
  rw [operandsIn?]
  · exact if_neg (by decide)
  · intro items h
    cases h

/-- The record of a kind is read by its kind. -/
theorem ofDocument?_ofKind {kind : Kind} {entries : List (String × Document)}
    (hnames : entries.map Prod.fst = kind.names) :
    ofDocument? (.ofKind kind.name entries) =
      match kind with
      | .matchAll => some matchAll
      | .all => do return all (← operandsIn? entries)
      | .any => do return any (← operandsIn? entries)
      | .not => do return not (← operandIn? entries)
      | kind => leaf? kind entries := by
  have hkind : Document.typeName ∉ entries.map Prod.fst := by
    rw [hnames]
    cases kind <;> decide
  have hentries : (Document.record entries).entries? kind.names = some entries :=
    entries?_record hnames (by cases kind <;> decide)
  have htyped := Document.typed?_ofKind kind.name hkind
  have hname : Kind.ofDocument? (.text kind.name) = some kind := ofName?_name kind
  rw [Document.ofKind] at htyped
  rw [Document.ofKind, ofDocument?, htyped]
  simp only [Option.bind_eq_bind, Option.bind_some, hname, operandIn?_type, operandsIn?_type]
  cases kind
  all_goals simp only [hentries, Option.bind_some, Option.pure_def]

/-! ## Round trip -/

mutual

/-- **A filter is read as it was written**, at any depth, if its numbers are
finite. -/
theorem ofDocument?_toDocument : ∀ spec : FilterSpec, spec.IsFinite →
    ofDocument? spec.toDocument = some spec
  | text .., _ => (@ofDocument?_ofKind .text _ rfl).trans rfl
  | exact .., _ => (@ofDocument?_ofKind .exact _ rfl).trans rfl
  | startsWith .., _ => (@ofDocument?_ofKind .startsWith _ rfl).trans rfl
  | fuzzy .., _ => (@ofDocument?_ofKind .fuzzy _ rfl).trans rfl
  | pattern .., _ => (@ofDocument?_ofKind .pattern _ rfl).trans rfl
  | custom .., _ => (@ofDocument?_ofKind .custom _ rfl).trans rfl
  | matchAll, _ => @ofDocument?_ofKind .matchAll [] rfl
  | tag field values negate, _ => by
    refine (@ofDocument?_ofKind .tag _ rfl).trans ?_
    simp [leaf?, required, withDefault, List.lookup, Document.text?, Document.bool?,
      Document.texts?_ofTexts]
  | numeric field comparison value, h => by
    refine (@ofDocument?_ofKind .numeric _ rfl).trans ?_
    simp [leaf?, required, List.lookup, Document.text?, comparison?_name,
      Document.double?_ofDouble h]
  | range field min max inclusive, ⟨hmin, hmax⟩ => by
    refine (@ofDocument?_ofKind .range _ rfl).trans ?_
    simp [leaf?, required, withDefault, List.lookup, Document.text?,
      Document.double?_ofDouble hmin, Document.double?_ofDouble hmax,
      Keyword.ofDocument?_toDocument inclusive.find?_name]
  | geoRadius field lon lat radius unit outside, ⟨hlon, hlat, hradius⟩ => by
    refine (@ofDocument?_ofKind .geoRadius _ rfl).trans ?_
    simp [leaf?, required, withDefault, List.lookup, Document.text?, Document.bool?,
      Document.double?_ofDouble hlon, Document.double?_ofDouble hlat,
      Document.double?_ofDouble hradius, unit?_toDocument]
  | geoBox field minLon minLat maxLon maxLat, ⟨hminLon, hminLat, hmaxLon, hmaxLat⟩ => by
    refine (@ofDocument?_ofKind .geoBox _ rfl).trans ?_
    simp [leaf?, required, List.lookup, Document.text?,
      Document.double?_ofDouble hminLon, Document.double?_ofDouble hminLat,
      Document.double?_ofDouble hmaxLon, Document.double?_ofDouble hmaxLat]
  | all operands, h => by
    refine (@ofDocument?_ofKind .all _ rfl).trans ?_
    rw [operandsIn?, ofDocuments?_toDocuments operands h]
    rfl
  | any operands, h => by
    refine (@ofDocument?_ofKind .any _ rfl).trans ?_
    rw [operandsIn?, ofDocuments?_toDocuments operands h]
    rfl
  | not operand, h => by
    refine (@ofDocument?_ofKind .not _ rfl).trans ?_
    rw [operandIn?, ofDocument?_toDocument operand h]
    rfl

/-- Filters are read in the order in which they were written. -/
theorem ofDocuments?_toDocuments : ∀ specs : List FilterSpec, AreFinite specs →
    ofDocuments? (toDocuments specs) = some specs
  | [], _ => rfl
  | spec :: specs, ⟨hspec, hspecs⟩ => by
    rw [toDocuments, ofDocuments?, ofDocument?_toDocument spec hspec,
      ofDocuments?_toDocuments specs hspecs]
    rfl

end

/-- A filter is written as a record that names its kind. -/
theorem exists_toDocument_eq_ofKind (spec : FilterSpec) :
    ∃ kind entries, spec.toDocument = .ofKind kind entries ∧
      Document.typeName ∉ entries.map Prod.fst := by
  cases spec <;> exact ⟨_, _, rfl, by simp [Document.typeName]⟩

/-- A filter is read back from a file of its own. -/
theorem ofFile?_toDocument (spec : FilterSpec) (h : spec.IsFinite) :
    ofFile? spec.toDocument = some spec := by
  obtain ⟨kind, entries, hspec, htype⟩ := spec.exists_toDocument_eq_ofKind
  have hnamed : isNumbered spec.toDocument = false := by
    rw [isNumbered, hspec, Document.typed?_ofKind kind htype]
  rw [ofFile?, hnamed]
  exact ofDocument?_toDocument spec h

end FilterSpec

/-! ## Restrictions -/

namespace RestrictionSpec

/-- Every number of the restriction is finite. -/
def IsFinite : RestrictionSpec → Prop
  | raw _ => True
  | tree filter => filter.IsFinite

/-- A fragment is a text and a filter a record, so neither is taken for the
other. -/
theorem ofDocument?_toDocument (spec : RestrictionSpec) (h : spec.IsFinite) :
    ofDocument? spec.toDocument = some spec := by
  cases spec with
  | raw fragment => rfl
  | tree filter =>
    have hread := FilterSpec.ofDocument?_toDocument filter h
    obtain ⟨kind, entries, hfilter, -⟩ := filter.exists_toDocument_eq_ofKind
    rw [toDocument]
    rw [hfilter] at hread ⊢
    rw [Document.ofKind] at hread ⊢
    rw [ofDocument?, hread]
    · rfl
    · intro fragment hfragment
      cases hfragment

end RestrictionSpec

end SearchQuery
