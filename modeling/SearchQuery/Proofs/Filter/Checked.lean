import SearchQuery.Filter.Spec
import SearchQuery.Proofs.Accepted

/-!
# Specifications are checked part by part

A specification is a tree, and each of its nodes can be refused by itself: a
leaf by its own factory, a composite because it has no operands
(`FilterSpec.refusal?`). Nothing else is ever refused. `refused_toFilter` is
the one equation behind this: the refusal of a specification is the first
one among its nodes, from left to right and each node before its operands.

What is accepted keeps the shape of the specification
(`FilterSpec.Mirrors`), and a leaf that is negated stands for the negation
of the leaf.
-/

namespace SearchQuery

/-- The cause of a refusal. -/
def refused? {α ε : Type} : Except ε α → Option ε
  | .error cause => some cause
  | .ok _ => none

/-- A result is refused for a cause when it is that error. -/
theorem refused?_eq_some {α ε : Type} {x : Except ε α} {cause : ε} :
    refused? x = some cause ↔ x = .error cause := by
  cases x with
  | error found => simp [refused?]
  | ok a => simp [refused?]

/-- Nothing is refused where there is an answer. -/
theorem refused?_eq_none {α ε : Type} {x : Except ε α} :
    refused? x = none ↔ ∃ a, x = .ok a := by
  cases x with
  | error found => simp [refused?]
  | ok a => simp [refused?]

/-- What always answers after an answer refuses nothing. -/
theorem refused?_bind {α β ε : Type} {x : Except ε α} {next : α → Except ε β}
    (h : ∀ a, x = .ok a → ∃ b, next a = .ok b) : refused? (x >>= next) = refused? x := by
  cases x with
  | error cause => rfl
  | ok a => exact refused?_eq_none.mpr (h a rfl)

namespace FilterSpec

/-! ## Nodes -/

mutual

/-- The nodes of a specification from left to right, each before its
operands. -/
def parts : FilterSpec → List FilterSpec
  | all operands => all operands :: partsEach operands
  | any operands => any operands :: partsEach operands
  | not operand => not operand :: parts operand
  | leaf => [leaf]

/-- The nodes of specifications, those of the first before those of the
others. -/
def partsEach : List FilterSpec → List FilterSpec
  | [] => []
  | operand :: operands => parts operand ++ partsEach operands

end

/-- What a leaf's own factory makes of it. A composite has none. -/
def factory? : FilterSpec → Option (Except Invalid Filter)
  | text field value negate =>
    some (if negate then Filter.textNot field value else Filter.text field value)
  | exact field phrase => some (Filter.exact field phrase)
  | startsWith field beginning => some (Filter.startsWith field beginning)
  | fuzzy field term => some (Filter.fuzzy field term)
  | pattern field form => some (Filter.pattern field form)
  | tag field values negate =>
    some (if negate then Filter.tagNot field values else Filter.tag field values)
  | numeric field comparison value => some (Filter.compare field comparison value)
  | range field min max inclusive => some (Filter.between field min max inclusive)
  | geoRadius field lon lat radius unit outside =>
    some (if outside then Filter.outsideRadius field lon lat radius unit
      else Filter.withinRadius field lon lat radius unit)
  | geoBox field minLon minLat maxLon maxLat =>
    some (Filter.withinBox field minLon minLat maxLon maxLat)
  | custom field expression => some (Filter.custom field expression)
  | matchAll => some (.ok Filter.matchAll)
  | all _ | any _ | not _ => none

/-- The refusal of a node by itself, whatever its operands are. -/
def refusal? : FilterSpec → Option Invalid
  | all [] => some (.emptyComposite "and")
  | any [] => some (.emptyComposite "or")
  | spec => spec.factory?.bind refused?

/-- The leaf that a negated leaf negates. -/
def negated? : FilterSpec → Option FilterSpec
  | text field value true => some (text field value false)
  | tag field values true => some (tag field values false)
  | _ => none

/-- The filter has the shape of the specification: the same composites with
their operands in the same order, and leaves where it has leaves. -/
inductive Mirrors : FilterSpec → Filter → Prop
  | leaf {spec : FilterSpec} {leaf : Leaf} :
    spec.factory? = some (.ok (.leaf leaf)) → Mirrors spec (.leaf leaf)
  | negated {spec positive : FilterSpec} {filter : Filter} :
    spec.negated? = some positive → Mirrors positive filter → Mirrors spec (.not filter)
  | all {operands : List FilterSpec} {filters : List Filter} : operands ≠ [] →
    List.Forall₂ Mirrors operands filters → Mirrors (all operands) (.all filters)
  | any {operands : List FilterSpec} {filters : List Filter} : operands ≠ [] →
    List.Forall₂ Mirrors operands filters → Mirrors (any operands) (.any filters)
  | not {operand : FilterSpec} {filter : Filter} :
    Mirrors operand filter → Mirrors (not operand) (.not filter)

/-! ## Leaves -/

/-- A negation is accepted as the negation of what its operand is accepted as. -/
theorem not_toFilter_eq_ok {operand : FilterSpec} {filter : Filter} :
    (not operand).toFilter = .ok filter ↔
      ∃ inner, operand.toFilter = .ok inner ∧ .not inner = filter := by
  rw [toFilter, bind_eq_ok]
  simp only [pure_eq_ok]

section Leaves

variable {spec positive : FilterSpec} {made : Except Invalid Filter}

/-- A condition on one field is checked by its factory. -/
theorem toFilter_of_factory? (h : spec.factory? = some made) : spec.toFilter = made := by
  cases spec with
  | all | any | not => cases h
  | _ => cases h; rfl

/-- A condition on one field has no parts but itself. -/
theorem parts_of_factory? (h : spec.factory? = some made) : spec.parts = [spec] := by
  cases spec with
  | all | any | not => cases h
  | _ => rfl

/-- A condition on one field is refused as its factory is. -/
theorem refusal?_of_factory? (h : spec.factory? = some made) : spec.refusal? = refused? made := by
  cases spec with
  | all | any | not => cases h
  | _ => exact congrArg (Option.bind · refused?) h

/-- A negated leaf is accepted, and refused, as the negation of the leaf. -/
theorem toFilter_of_negated? (h : spec.negated? = some positive) :
    spec.toFilter = (not positive).toFilter := by
  cases spec with
  | text _ _ negate | tag _ _ negate =>
    cases negate with
    | false => cases h
    | true => cases h; rfl
  | _ => cases h

/-- What is negated is a leaf that is not negated. -/
theorem factory?_of_negated? (h : spec.negated? = some positive) :
    positive.negated? = none ∧ ∃ made, positive.factory? = some made := by
  cases spec with
  | text _ _ negate | tag _ _ negate =>
    cases negate with
    | false => cases h
    | true => cases h; exact ⟨rfl, _, rfl⟩
  | _ => cases h

/-- The check answers with nothing but leaves. -/
def MakesLeaf (made : Except Invalid Filter) : Prop :=
  ∀ filter, made = .ok filter → ∃ leaf, filter = .leaf leaf

/-- What answers with a leaf makes one. -/
theorem MakesLeaf.pure (leaf : Leaf) : MakesLeaf (pure (.leaf leaf)) := by
  intro filter h
  cases h
  exact ⟨leaf, rfl⟩

/-- A check before a leaf is made makes no difference to what is made. -/
theorem MakesLeaf.bind {α : Type} {x : Except Invalid α} {next : α → Except Invalid Filter}
    (h : ∀ a, MakesLeaf (next a)) : MakesLeaf (x >>= next) := by
  intro filter hfilter
  obtain ⟨a, -, hnext⟩ := bind_eq_ok.mp hfilter
  exact h a filter hnext

/-- A refusal before a leaf is made makes no difference to what is made. -/
theorem MakesLeaf.refuse {c : Prop} [Decidable c] {cause : Invalid}
    {next : Unit → Except Invalid Filter} {rest : Except Invalid Filter} (h : MakesLeaf rest) :
    MakesLeaf (if c then throw cause >>= next else rest) := by
  intro filter hfilter
  exact h filter (refuse_eq_ok.mp hfilter).2

/-- A leaf that is not negated becomes a leaf. -/
theorem makesLeaf_of_factory? (hpositive : spec.negated? = none) (h : spec.factory? = some made) :
    MakesLeaf made := by
  cases spec with
  | text _ _ negate | tag _ _ negate =>
    cases negate with
    | false => cases h; exact .bind fun _ => .pure _
    | true => cases hpositive
  | exact | startsWith | fuzzy | pattern | numeric =>
    cases h
    exact .bind fun _ => .bind fun _ => .pure _
  | geoRadius _ _ _ _ _ outside =>
    cases outside with
    | false => cases h; exact .bind fun _ => .bind fun _ => .pure _
    | true => cases h; exact .bind fun _ => .bind fun _ => .pure _
  | range =>
    cases h
    exact .bind fun _ => .bind fun _ => .bind fun _ => .refuse (.pure _)
  | geoBox =>
    cases h
    exact .bind fun _ => .bind fun _ => .bind fun _ => .refuse (.pure _)
  | custom =>
    cases h
    exact .bind fun _ => .refuse (.pure _)
  | matchAll =>
    cases h
    exact .pure _
  | all | any | not => cases h

/-- A leaf that is not negated is accepted as the leaf that its factory makes. -/
theorem toFilter_eq_ok_of_negated?_eq_none (hpositive : spec.negated? = none)
    (h : spec.factory? = some made) {filter : Filter} :
    spec.toFilter = .ok filter ↔ Mirrors spec filter := by
  rw [toFilter_of_factory? h]
  constructor
  · intro hmade
    obtain ⟨leaf, rfl⟩ := makesLeaf_of_factory? hpositive h filter hmade
    exact .leaf (h.trans (congrArg some hmade))
  · intro hmirrors
    cases hmirrors with
    | leaf hleaf => exact Option.some.inj (h.symm.trans hleaf)
    | negated hnegated => cases hpositive.symm.trans hnegated
    | all | any | not => cases h

/-- A leaf is accepted as what its factory makes of it. -/
theorem toFilter_eq_ok_of_factory? (h : spec.factory? = some made) {filter : Filter} :
    spec.toFilter = .ok filter ↔ Mirrors spec filter := by
  cases hnegated : spec.negated? with
  | none => exact toFilter_eq_ok_of_negated?_eq_none hnegated h
  | some positive =>
    obtain ⟨hpositive, made', hmade'⟩ := factory?_of_negated? hnegated
    have hmirrors {inner : Filter} : positive.toFilter = .ok inner ↔ Mirrors positive inner :=
      toFilter_eq_ok_of_negated?_eq_none hpositive hmade'
    have hspec := toFilter_of_negated? hnegated
    constructor
    · intro hok
      obtain ⟨inner, hinner, rfl⟩ := not_toFilter_eq_ok.mp (hspec.symm.trans hok)
      exact .negated hnegated (hmirrors.mp hinner)
    · intro hfilter
      cases hfilter with
      | leaf hleaf =>
        obtain ⟨inner, -, hinner⟩ :=
          not_toFilter_eq_ok.mp (hspec.symm.trans (toFilter_of_factory? hleaf))
        cases hinner
      | negated hother hinner =>
        cases hnegated.symm.trans hother
        exact hspec.trans (not_toFilter_eq_ok.mpr ⟨_, hmirrors.mpr hinner, rfl⟩)
      | all | any | not => cases h

end Leaves

/-! ## Trees -/

/-- A conjunction is made of one filter at least, and of those that were
given. -/
theorem allOf_eq_ok {filters : List Filter} {filter : Filter} :
    Filter.allOf filters = .ok filter ↔ filters ≠ [] ∧ .all filters = filter := by
  cases filters with
  | nil => simp [Filter.allOf]
  | cons => simp [Filter.allOf]

/-- A disjunction is made of one filter at least, and of those that were
given. -/
theorem anyOf_eq_ok {filters : List Filter} {filter : Filter} :
    Filter.anyOf filters = .ok filter ↔ filters ≠ [] ∧ .any filters = filter := by
  cases filters with
  | nil => simp [Filter.anyOf]
  | cons => simp [Filter.anyOf]

/-- As many filters are made as there are operands, so there are some of either
or none. -/
theorem ne_nil_iff_of_forall₂ {operands : List FilterSpec} {filters : List Filter}
    (h : List.Forall₂ Mirrors operands filters) : operands ≠ [] ↔ filters ≠ [] := by
  cases h <;> simp

/-- A composite is accepted when it has operands and each of them is accepted. -/
theorem composite_eq_ok {operands : List FilterSpec} {filter : Filter}
    {compose : List Filter → Except Invalid Filter} {node : List Filter → Filter}
    (hcompose : ∀ {filters filter}, compose filters = .ok filter ↔
      filters ≠ [] ∧ node filters = filter)
    (hoperands : ∀ {filters}, toFilters operands = .ok filters ↔
      List.Forall₂ Mirrors operands filters) :
    toFilters operands >>= compose = .ok filter ↔ operands ≠ [] ∧
      ∃ filters, List.Forall₂ Mirrors operands filters ∧ node filters = filter := by
  rw [bind_eq_ok]
  constructor
  · rintro ⟨filters, hfilters, hnode⟩
    have hmirrors := hoperands.mp hfilters
    obtain ⟨hne, rfl⟩ := hcompose.mp hnode
    exact ⟨(ne_nil_iff_of_forall₂ hmirrors).mpr hne, filters, hmirrors, rfl⟩
  · rintro ⟨hne, filters, hmirrors, rfl⟩
    refine ⟨filters, hoperands.mpr hmirrors, ?_⟩
    exact hcompose.mpr ⟨(ne_nil_iff_of_forall₂ hmirrors).mp hne, rfl⟩

mutual

/-- A specification is accepted as the filter of its shape. -/
theorem toFilter_eq_ok : (spec : FilterSpec) → {filter : Filter} →
    (spec.toFilter = .ok filter ↔ Mirrors spec filter)
  | all operands, filter => by
    rw [toFilter, composite_eq_ok allOf_eq_ok (toFilters_eq_ok operands)]
    constructor
    · rintro ⟨hne, filters, hmirrors, rfl⟩
      exact .all hne hmirrors
    · intro h
      cases h with
      | leaf h | negated h => cases h
      | all hne hmirrors => exact ⟨hne, _, hmirrors, rfl⟩
  | any operands, filter => by
    rw [toFilter, composite_eq_ok anyOf_eq_ok (toFilters_eq_ok operands)]
    constructor
    · rintro ⟨hne, filters, hmirrors, rfl⟩
      exact .any hne hmirrors
    · intro h
      cases h with
      | leaf h | negated h => cases h
      | any hne hmirrors => exact ⟨hne, _, hmirrors, rfl⟩
  | not operand, filter => by
    rw [not_toFilter_eq_ok]
    constructor
    · rintro ⟨inner, hinner, rfl⟩
      exact .not ((toFilter_eq_ok operand).mp hinner)
    · intro h
      cases h with
      | leaf h | negated h => cases h
      | not hmirrors => exact ⟨_, (toFilter_eq_ok operand).mpr hmirrors, rfl⟩
  | text .., _ | exact .., _ | startsWith .., _ | fuzzy .., _ | pattern .., _ | tag .., _
  | numeric .., _ | range .., _ | geoRadius .., _ | geoBox .., _ | custom .., _ | matchAll, _ =>
    toFilter_eq_ok_of_factory? rfl

/-- Specifications are accepted as the filters of their shapes, in order. -/
theorem toFilters_eq_ok : (specs : List FilterSpec) → {filters : List Filter} →
    (toFilters specs = .ok filters ↔ List.Forall₂ Mirrors specs filters)
  | [], filters => by
    rw [toFilters, List.forall₂_nil_left_iff, Except.ok.injEq, eq_comm]
  | spec :: specs, filters => by
    rw [toFilters, List.forall₂_cons_left_iff]
    constructor
    · intro h
      obtain ⟨filter, hfilter, hrest⟩ := bind_eq_ok.mp h
      obtain ⟨rest, hrests, heq⟩ := bind_eq_ok.mp hrest
      exact ⟨filter, rest, (toFilter_eq_ok spec).mp hfilter, (toFilters_eq_ok specs).mp hrests,
        (pure_eq_ok.mp heq).symm⟩
    · rintro ⟨filter, rest, hfilter, hrest, rfl⟩
      exact bind_eq_ok.mpr ⟨filter, (toFilter_eq_ok spec).mpr hfilter,
        bind_eq_ok.mpr ⟨rest, (toFilters_eq_ok specs).mpr hrest, rfl⟩⟩

end

/-- The refusal of a composite with operands is that of the operands. -/
theorem refused?_composite {compose : List Filter → Except Invalid Filter}
    {node : List Filter → Filter}
    (hcompose : ∀ {filters filter}, compose filters = .ok filter ↔
      filters ≠ [] ∧ node filters = filter) {operands : List FilterSpec} (hne : operands ≠ []) :
    refused? (toFilters operands >>= compose) = refused? (toFilters operands) := by
  apply refused?_bind
  intro filters hfilters
  have hmirrors := (toFilters_eq_ok operands).mp hfilters
  exact ⟨_, hcompose.mpr ⟨(ne_nil_iff_of_forall₂ hmirrors).mp hne, rfl⟩⟩

/-- The refusal of a leaf is that of its factory. -/
theorem refused?_toFilter_of_factory? {spec : FilterSpec} {made : Except Invalid Filter}
    (h : spec.factory? = some made) :
    refused? spec.toFilter = spec.parts.findSome? refusal? := by
  rw [toFilter_of_factory? h, parts_of_factory? h, List.findSome?_singleton, refusal?_of_factory? h]

mutual

/-- The refusal of a specification is the first one among its nodes. -/
theorem refused?_toFilter : (spec : FilterSpec) →
    refused? spec.toFilter = spec.parts.findSome? refusal?
  | all [] | any [] => rfl
  | all (operand :: operands) => by
    rw [toFilter, refused?_composite allOf_eq_ok (List.cons_ne_nil _ _),
      refused?_toFilters (operand :: operands)]
    rfl
  | any (operand :: operands) => by
    rw [toFilter, refused?_composite anyOf_eq_ok (List.cons_ne_nil _ _),
      refused?_toFilters (operand :: operands)]
    rfl
  | not operand => by
    rw [toFilter, refused?_bind fun filter _ => ⟨_, pure_eq_ok.mpr rfl⟩,
      refused?_toFilter operand]
    rfl
  | text .. | exact .. | startsWith .. | fuzzy .. | pattern .. | tag .. | numeric .. | range ..
  | geoRadius .. | geoBox .. | custom .. | matchAll => refused?_toFilter_of_factory? rfl

/-- The refusal of specifications is the first one among all their nodes. -/
theorem refused?_toFilters : (specs : List FilterSpec) →
    refused? (toFilters specs) = (partsEach specs).findSome? refusal?
  | [] => rfl
  | spec :: specs => by
    rw [toFilters, partsEach, List.findSome?_append, ← refused?_toFilter spec,
      ← refused?_toFilters specs]
    cases spec.toFilter with
    | error cause => rfl
    | ok filter => exact refused?_bind fun filters _ => ⟨_, rfl⟩

end

/-! ## Verdicts -/

/-- A node is not refused by itself when its factory accepts it, if it is a
leaf, and it has operands, if it is a composite. -/
theorem refusal?_eq_none {part : FilterSpec} : part.refusal? = none ↔
    (∀ made, part.factory? = some made → ∃ filter, made = .ok filter) ∧
      part ≠ all [] ∧ part ≠ any [] := by
  cases hfactory : part.factory? with
  | some made =>
    rw [refusal?_of_factory? hfactory, refused?_eq_none]
    constructor
    · intro haccepted
      refine ⟨fun made' hmade' => Option.some.inj hmade' ▸ haccepted, ?_, ?_⟩
      · rintro rfl
        cases hfactory
      · rintro rfl
        cases hfactory
    · exact fun h => h.1 made rfl
  | none =>
    cases part with
    | all operands | any operands => cases operands <;> simp [refusal?, factory?]
    | not operand => simp [refusal?, factory?]
    | _ => cases hfactory

/-- **Specifications are checked part by part.** One is accepted when each of
its leaves is accepted by its own factory and none of its composites is
empty, and as the filter of its shape; it is refused for the first node that
is refused by itself; and a negated leaf stands for the negation of the leaf. -/
theorem toFilter_part_by_part :
    (∀ spec : FilterSpec, (∃ filter, spec.toFilter = .ok filter) ↔
      ∀ part ∈ spec.parts,
        (∀ made, part.factory? = some made → ∃ filter, made = .ok filter) ∧
          part ≠ all [] ∧ part ≠ any []) ∧
    (∀ (spec : FilterSpec) (filter : Filter),
      spec.toFilter = .ok filter ↔ Mirrors spec filter) ∧
    (∀ (spec : FilterSpec) (cause : Invalid),
      spec.toFilter = .error cause ↔ ∃ before part after, spec.parts = before ++ part :: after ∧
        part.refusal? = some cause ∧ ∀ part ∈ before, part.refusal? = none) ∧
    ∀ spec positive : FilterSpec, spec.negated? = some positive →
      spec.toFilter = (not positive).toFilter := by
  refine ⟨fun spec => ?_, fun spec _ => toFilter_eq_ok spec, fun spec cause => ?_,
    fun _ _ => toFilter_of_negated?⟩
  · rw [← refused?_eq_none, refused?_toFilter, List.findSome?_eq_none_iff]
    simp only [refusal?_eq_none]
  · rw [← refused?_eq_some, refused?_toFilter, List.findSome?_eq_some_iff]

/-- A negated tag filter is the negation of the tag filter. One tree is refused
for an empty prefix deep in it and not for the empty conjunction behind it;
another is accepted in the shape that it has. -/
theorem toFilter_part_by_part_nested :
    (tag "status" [] true).negated? = some (tag "status" [] false) ∧
    (tag "status" [] true).toFilter = (not (tag "status" [] false)).toFilter ∧
    (all [tag "status" [] true, any [matchAll, startsWith "name" ""], all []]).toFilter
      = .error (.missingValue "prefix") ∧
    (not (any [tag "status" [] true, matchAll])).toFilter
      = .ok (.not (.any [.not (.leaf ⟨.tag, "status", "*"⟩), .leaf ⟨.custom, "", "*"⟩])) := by
  obtain ⟨-, hmirrors, hrefused, hnegated⟩ := toFilter_part_by_part
  have htag : Filter.tag "status" [] = .ok (.leaf ⟨.tag, "status", "*"⟩) := rfl
  have hstatus : (tag "status" [] true).refusal? = none := rfl
  have hname : (startsWith "name" "").refusal? = some (.missingValue "prefix") := rfl
  refine ⟨rfl, hnegated _ _ rfl, ?_, ?_⟩
  · refine (hrefused _ _).mpr ⟨[_, tag "status" [] true, _, matchAll], _, [all []], rfl, hname, ?_⟩
    intro part hpart
    simp only [List.mem_cons, List.not_mem_nil, or_false] at hpart
    rcases hpart with rfl | rfl | rfl | rfl
    · rfl
    · exact hstatus
    · rfl
    · rfl
  · apply (hmirrors _ _).mpr
    have hpositive : Mirrors (tag "status" [] false) (.leaf ⟨.tag, "status", "*"⟩) :=
      .leaf (congrArg some htag)
    refine .not (.any (List.cons_ne_nil _ _) (.cons (.negated rfl hpositive) ?_))
    exact .cons (.leaf rfl) .nil

end FilterSpec

end SearchQuery
