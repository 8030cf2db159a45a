import SearchQuery.Filter.Geo
import SearchQuery.Proofs.Decimal.Plain
import SearchQuery.Proofs.Filter.Comparison
import SearchQuery.Proofs.Filter.Place
import SearchQuery.Proofs.Query.Clauses
import SearchQuery.Proofs.Query.Rebuilt

/-!
# Numbers are sent as they are held

The literal of a finite number is a plain numeral that is read as the number,
and no decimal that rounds to it has fewer significant digits
(`Double.IsLiteral`). The one number that is not read as itself is the
negative zero, which is written like the other.

## What is proved

`numbers_sent_exactly` — it holds of every finite number, and of every number
that is sent: the place and the distance of a circle, the distance and the
approximation factor of a range, whatever calls have changed, and the weights of
a text. What is sent is described by its slots (`Slot`): fixed text, and the
numbers that are held. A number is checked before it is held, and no check lets
through what is not finite, so a slot is never filled with a word.
-/

namespace SearchQuery

/-! ## Literals -/

/-- The number with both zeros as one. -/
def Binary.withoutZeroSign {f : Format} (x : Binary f) : Binary f :=
  if x.isZero then Binary.zero else x

theorem Binary.withoutZeroSign_of_isZero {f : Format} {x : Binary f} (hx : x.isZero = true) :
    x.withoutZeroSign = Binary.zero := if_pos hx

theorem Binary.withoutZeroSign_of_ne {f : Format} {x : Binary f} (hx : x.isZero = false) :
    x.withoutZeroSign = x := if_neg (hx ▸ Bool.false_ne_true)

/-- A text is the exact and shortest literal of a number. -/
structure Double.IsLiteral (x : Double) (cs : List Char) : Prop where
  /-- It is a plain numeral, and one without a point if the number is whole. -/
  plain : ∃ p : PlainNumeral, p.text = cs ∧ ((∃ whole : Nat, x.magnitude = whole) → p.places = [])
  /-- Neither zero has a sign. -/
  zero : x.isZero = true → cs = ['0']
  /-- It is read as the number. -/
  reads : Double.ofLiteral? cs = some x.withoutZeroSign
  /-- What it says rounds to the number, and nothing that does is shorter. -/
  shortest : ∃ d, Decimal.ofText? cs = some d ∧ d.RoundsTo x.withoutZeroSign ∧
    ∀ d' : Decimal, d'.RoundsTo x → d.significantDigits ≤ d'.significantDigits

namespace Double

/-- A zero is written without its sign, and in one digit. -/
theorem isLiteral_zero {x : Double} (hx : x.isZero = true) : x.IsLiteral ['0'] where
  plain := ⟨Decimal.plainWhole false 0, rfl, fun _ => rfl⟩
  zero _ := rfl
  reads := by
    rw [Binary.withoutZeroSign_of_isZero hx]
    exact ofLiteral?_shortest .away (x := Binary.zero) rfl
  shortest := by
    refine ⟨⟨false, 0, 0⟩, rfl, ?_, fun d' _ => Nat.zero_le _⟩
    rw [Binary.withoutZeroSign_of_isZero hx]
    exact (Decimal.roundsTo_iff (by decide) rfl).mpr
      (Binary.ofMagnitude_shortest .away (x := Binary.zero) rfl)

/-- The shortest digits of a finite number that is not zero. -/
theorem isLiteral_shortest {x : Double} (hfinite : x.isFinite = true) (hx : x.isZero = false) :
    x.IsLiteral (x.shortest .away).text where
  plain := by
    obtain ⟨p, htext, hplaces⟩ :=
      (x.shortest .away).exists_plainNumeral (Binary.digits_shortest_mod_ne_zero .away hx)
    refine ⟨p, htext, ?_⟩
    rintro ⟨whole, hwhole⟩
    exact hplaces (Binary.exponent_shortest_nonneg .away hx hwhole)
  zero hzero := by
    rw [hx] at hzero
    cases hzero
  reads := by
    rw [Binary.withoutZeroSign_of_ne hx]
    exact ofLiteral?_shortest .away hfinite
  shortest := by
    obtain ⟨hnegative, hordinal⟩ := x.nearest_shortest .away
    obtain ⟨d, hd, hsign, hmagnitude⟩ := (x.shortest .away).exists_ofText?_text
    refine ⟨d, hd, ?_, ?_⟩
    · rw [Binary.withoutZeroSign_of_ne hx]
      refine (Decimal.roundsTo_iff (by decide) hfinite).mpr ?_
      rw [hsign, hmagnitude, Binary.ofMagnitude_shortest .away hfinite]
    · rintro d' ⟨-, hnearest⟩
      rw [Decimal.significantDigits_eq hmagnitude]
      exact Binary.significantDigits_shortest_le .away x
        (hnearest.ordinal_eq (by decide) d'.magnitude_nonneg hfinite).symm

/-- **The literal of a finite number is exact and shortest.** -/
theorem isLiteral_literal {x : Double} (hx : x.isFinite = true) :
    x.IsLiteral (literal x).toList := by
  obtain ⟨hnan, hinfinite⟩ := Binary.isNaN_and_isInfinite_of_isFinite hx
  rw [literal, hinfinite, if_neg Bool.false_ne_true]
  cases hzero : x.isZero with
  | true =>
    rw [if_pos rfl]
    exact isLiteral_zero hzero
  | false =>
    rw [if_neg Bool.false_ne_true, Binary.display, hnan, hinfinite, if_neg Bool.false_ne_true,
      if_neg Bool.false_ne_true, String.toList_ofList]
    exact isLiteral_shortest hx hzero

end Double

/-! ## Slots -/

/-- A part of what is sent. -/
inductive Slot where
  | fixed (text : String)
  | number (x : Double)

namespace Slot

/-- What is written in the slot. -/
def write : Slot → List Char
  | fixed text => text.toList
  | number x => (Double.literal x).toList

/-- The slot holds what it should: a number its literal. -/
def IsFilled : Slot → List Char → Prop
  | fixed text, cs => cs = text.toList
  | number x, cs => x.IsLiteral cs

/-- A number in the slot is finite. -/
def IsFinite : Slot → Prop
  | fixed _ => True
  | number x => x.isFinite = true

/-- A slot is filled by the shortest digits of its number. -/
theorem isFilled_write {slot : Slot} (h : slot.IsFinite) : slot.IsFilled slot.write := by
  cases slot with
  | fixed text => rfl
  | number x => exact Double.isLiteral_literal h

end Slot

/-- A text consists of slots that hold what they should. -/
def IsSent (slots : List Slot) (text : String) : Prop :=
  ∃ parts, List.Forall₂ Slot.IsFilled slots parts ∧ text.toList = parts.flatten

/-- A text with a fixed part before it. -/
theorem IsSent.cons {slots : List Slot} {before text : String} (h : IsSent slots text) :
    IsSent (.fixed before :: slots) (before ++ text) := by
  obtain ⟨parts, hparts, htext⟩ := h
  exact ⟨_, .cons rfl hparts, by rw [String.toList_append, htext, List.flatten_cons]⟩

/-- What is written in slots without a number that is not finite. -/
theorem isSent_of_write {slots : List Slot} {text : String}
    (htext : text.toList = slots.flatMap Slot.write) (hslots : ∀ slot ∈ slots, slot.IsFinite) :
    IsSent slots text := by
  refine ⟨slots.map Slot.write, ?_, htext.trans List.flatMap_def⟩
  rw [List.forall₂_map_right_iff]
  exact List.forall₂_same.mpr fun slot hslot => Slot.isFilled_write (hslots slot hslot)

/-! ## Circles -/

namespace Filter

/-- The slots of a circle. -/
def circleSlots (ref : String) (lon lat radius : Double) (unit : GeoUnit) : List Slot := [
  .fixed (ref ++ ":["), .number lon, .fixed " ", .number lat, .fixed " ", .number radius,
  .fixed (" " ++ unit.name ++ "]")]

/-- A circle has a place that is known and a distance. -/
theorem circle_eq_ok {ref written : String} {lon lat radius : Double} {unit : GeoUnit} :
    circle ref lon lat radius unit = .ok written ↔ checkPlace lon lat = .ok () ∧
      (radius.isFinite && radius.isPositive) = true ∧
      ref ++ ":[" ++ Double.literal lon ++ " " ++ Double.literal lat ++ " "
        ++ Double.literal radius ++ " " ++ unit.name ++ "]" = written := by
  simp only [circle, bind_eq_ok, exists_unit_eq_ok]
  refine and_congr_right fun _ => ?_
  split
  · next hradius => rw [pure_eq_ok, hradius, eq_self, true_and]
  · next hradius => exact ⟨nofun, fun h => absurd h.1 hradius⟩

/-- The numbers of a circle that is accepted are finite. -/
theorem isSent_of_circle {ref written : String} {lon lat radius : Double} {unit : GeoUnit}
    (h : circle ref lon lat radius unit = .ok written) :
    IsSent (circleSlots ref lon lat radius unit) written := by
  obtain ⟨hplace, hradius, rfl⟩ := circle_eq_ok.mp h
  obtain ⟨hlon, hlat⟩ := checkPlace_eq_ok.mp hplace
  have hlon' := isFinite_of_withinLimit Filter.maxLongitude_isFinite_and_toRat.1 hlon
  have hlat' := isFinite_of_withinLimit Filter.maxLatitude_isFinite hlat
  have hradius' := (Bool.and_eq_true_iff.mp hradius).1
  refine isSent_of_write ?_ ?_
  · simp only [circleSlots, List.flatMap_cons, List.flatMap_nil, Slot.write, String.toList_append,
      List.append_assoc, List.append_nil]
  · simp [circleSlots, Slot.IsFinite, hlon', hlat', hradius']

/-- **A circle is sent with the numbers that it was made of.** -/
theorem isSent_of_withinRadius {field : String} {lon lat radius : Double} {unit : GeoUnit}
    {t : Filter} (h : withinRadius field lon lat radius unit = .ok t) :
    IsSent (circleSlots ("@" ++ Escape.field field) lon lat radius unit) t.build := by
  obtain ⟨written, hcircle, h⟩ := bind_eq_ok.mp (fieldRef_bind_eq_ok h)
  cases h
  exact isSent_of_circle hcircle

/-- Outside of a circle the same numbers are sent, behind a minus sign. -/
theorem isSent_of_outsideRadius {field : String} {lon lat radius : Double} {unit : GeoUnit}
    {t : Filter} (h : outsideRadius field lon lat radius unit = .ok t) :
    IsSent (.fixed "-" :: circleSlots ("@" ++ Escape.field field) lon lat radius unit)
      t.build := by
  obtain ⟨written, hcircle, h⟩ := bind_eq_ok.mp (fieldRef_bind_eq_ok h)
  cases h
  exact (isSent_of_circle hcircle).cons

end Filter

namespace Query

/-! ## Ranges -/

namespace Range

/-- A check that refuses what is not finite lets through what is. -/
theorem isFinite_of_not_refused {x : Double} {other : Bool}
    (h : ¬(!x.isFinite || other) = true) : x.isFinite = true := by
  rw [Bool.or_eq_true, not_or, Bool.not_eq_true', Bool.not_eq_false] at h
  exact h.1

/-- A threshold that is accepted is finite, turned into a distance or not. -/
theorem isFinite_of_checkThreshold {normalize : Bool} {x y : Double}
    (h : checkThreshold normalize x = .ok y) : y.isFinite = true := by
  unfold checkThreshold at h
  split at h
  · cases h
  · next hrefused =>
    split at h
    · cases h
    · cases h
      exact isFinite_of_not_refused hrefused

/-- An epsilon that is accepted is finite. -/
theorem isFinite_of_checkEpsilon {x y : Double} (h : checkEpsilon x = .ok y) :
    y.isFinite = true := by
  unfold checkEpsilon at h
  split at h
  · cases h
  · next hrefused =>
    cases h
    exact isFinite_of_not_refused hrefused

/-- The slots of the approximation factor. -/
def epsilonSlots (query : Range) : List Slot :=
  match query.epsilon with
  | some epsilon => [.fixed "$EPSILON: ", .number epsilon, .fixed "; "]
  | none => []

/-- The slots of the clause. -/
def clauseSlots (query : Range) : List Slot :=
  .fixed ("@" ++ Escape.field query.vector.field ++ ":[VECTOR_RANGE ") ::
    .number query.threshold :: .fixed (" $" ++ vectorParam ++ "]=>\x7b") ::
    (query.epsilonSlots ++ [.fixed ("$YIELD_DISTANCE_AS: " ++ distanceAlias ++ "\x7d")])

/-- The slots of the query. -/
def slots (query : Range) : List Slot :=
  if query.restriction.isMatchAll then query.clauseSlots
  else .fixed "(" :: (query.clauseSlots ++ [.fixed (" " ++ query.restriction.build ++ ")")])

/-- The attribute of an epsilon is written in its slots, if there is one. -/
theorem toList_epsilonPart (query : Range) :
    query.epsilonPart.toList = query.epsilonSlots.flatMap Slot.write := by
  unfold epsilonPart epsilonSlots
  cases query.epsilon with
  | none => rfl
  | some epsilon => simp [Slot.write]

/-- A range query is written in slots: its threshold and its epsilon, and what
stands around them. -/
theorem toList_queryString (query : Range) :
    query.queryString.toList = query.slots.flatMap Slot.write := by
  have hclause : query.clause.toList = query.clauseSlots.flatMap Slot.write := by
    simp only [clause, clauseSlots, List.flatMap_cons, List.flatMap_append, List.flatMap_nil,
      Slot.write, String.toList_append, toList_epsilonPart, List.append_assoc, List.append_nil]
  unfold queryString slots
  split
  · exact hclause
  · simp [Slot.write, hclause]

/-- The numbers of a query are its distance and its approximation factor. -/
theorem isFinite_of_mem_slots {query : Range} (hthreshold : query.threshold.isFinite = true)
    (hepsilon : ∀ epsilon ∈ query.epsilon, epsilon.isFinite = true) :
    ∀ slot ∈ query.slots, slot.IsFinite := by
  have hpart : ∀ slot ∈ query.epsilonSlots, slot.IsFinite := by
    unfold epsilonSlots
    cases h : query.epsilon with
    | none => simp
    | some epsilon => simpa [Slot.IsFinite] using hepsilon epsilon h
  have hclause : ∀ slot ∈ query.clauseSlots, slot.IsFinite := by
    simp only [clauseSlots, List.forall_mem_cons, List.forall_mem_append]
    exact ⟨trivial, hthreshold, trivial, hpart, by simp [Slot.IsFinite]⟩
  unfold slots
  split
  · exact hclause
  · simp only [List.forall_mem_cons, List.forall_mem_append]
    exact ⟨trivial, hclause, by simp [Slot.IsFinite]⟩

/-- **A range is sent with the numbers that it holds.** -/
theorem isSent_of_build {draft : Draft} {query : Range} (h : draft.build = .ok query) :
    IsSent query.slots query.queryString := by
  obtain ⟨threshold, hthreshold, epsilon, hepsilon, options, -, rfl⟩ := Draft.build_eq_ok.mp h
  refine isSent_of_write (toList_queryString _)
    (isFinite_of_mem_slots (isFinite_of_checkThreshold hthreshold) ?_)
  cases hdraft : draft.epsilon with
  | none =>
    rw [hdraft] at hepsilon
    cases hepsilon
    simp
  | some x =>
    rw [hdraft, Option.mapM_some] at hepsilon
    obtain ⟨y, hy, hepsilon⟩ := bind_eq_ok.mp hepsilon
    cases hepsilon
    simpa using isFinite_of_checkEpsilon hy

end Range

/-! ## Full text -/

namespace WeightedField

/-- Weights that are accepted are finite. -/
theorem isFinite_of_checkAll {fields : List WeightedField} (h : checkAll fields = .ok ()) :
    ∀ f ∈ fields, f.weight.isFinite = true :=
  fun f hf => (check_eq_ok.mp (checkAll_eq_ok.mp h f hf)).2.1

/-- The slots of the words in one field. -/
def slots (words : List String) (f : WeightedField) : List Slot :=
  if f.weight.eq plainWeight then [.fixed (TextClause.render ⟨f.field, words⟩)]
  else [.fixed (TextClause.render ⟨f.field, words⟩ ++ " => \x7b $weight: "), .number f.weight,
    .fixed " \x7d"]

/-- A weighted clause is written in slots, of which the weight is one unless it
is left out. -/
theorem toList_render_slots (words : List String) (f : WeightedField) :
    (f.render words).toList = (f.slots words).flatMap Slot.write := by
  unfold render slots
  split <;> simp [Slot.write]

theorem isFinite_of_mem_slots {words : List String} {f : WeightedField}
    (hf : f.weight.isFinite = true) : ∀ slot ∈ f.slots words, slot.IsFinite := by
  unfold slots
  split <;> simp [Slot.IsFinite, hf]

end WeightedField

namespace FullText

/-- The slots of a query. -/
def slots (query : FullText) : List Slot :=
  alternatives (.fixed "(") (.fixed " | ") (.fixed ")")
    (query.fields.map (WeightedField.slots query.words)) ++ [.fixed (joined query.restriction)]

/-- What is known of the groups and of what stands around them is known of the
alternatives. -/
theorem forall_mem_alternatives {σ : Type} {p : σ → Prop} {opening bar closing : σ}
    (hopening : p opening) (hbar : p bar) (hclosing : p closing) {groups : List (List σ)}
    (hgroups : ∀ group ∈ groups, ∀ s ∈ group, p s) :
    ∀ s ∈ alternatives opening bar closing groups, p s := by
  unfold alternatives
  split
  · next group => exact hgroups group List.mem_cons_self
  · rw [List.forall_mem_cons, List.forall_mem_append, List.forall_mem_singleton]
    exact ⟨hopening,
      Syntax.forall_mem_intercalate (List.forall_mem_singleton.mpr hbar) hgroups, hclosing⟩

/-- A full-text query is written in slots: the weights, and what stands around
them. -/
theorem toList_queryString_slots (query : FullText) :
    query.queryString.toList = query.slots.flatMap Slot.write := by
  have hclauses := query.toList_clauses_of_parts Slot.write (.fixed "(") (.fixed " | ") (.fixed ")")
    rfl rfl rfl (WeightedField.toList_render_slots query.words)
  rw [slots, List.flatMap_append, ← hclauses, queryString, List.flatMap_singleton, Slot.write,
    joined]
  split
  · exact (List.append_nil _).symm
  · simp only [String.toList_append, List.append_assoc]

/-- **A text is sent with the weights that its fields hold.** -/
theorem isSent_of_build {draft : Draft} {query : FullText} (h : draft.build = .ok query) :
    IsSent query.slots query.queryString := by
  obtain ⟨-, hfields, -, words, -, options, -, rfl⟩ := Draft.build_eq_ok.mp h
  have hweights := WeightedField.isFinite_of_checkAll hfields
  refine isSent_of_write (toList_queryString_slots _) ?_
  rw [slots, List.forall_mem_append]
  refine ⟨forall_mem_alternatives trivial trivial trivial ?_, by simp [Slot.IsFinite]⟩
  intro group hgroup
  obtain ⟨f, hf, rfl⟩ := List.mem_map.mp hgroup
  exact WeightedField.isFinite_of_mem_slots (hweights f hf)

end FullText

/-! ## Whatever is sent -/

/-- **Numbers are sent as they are held.** -/
theorem numbers_sent_exactly :
    (∀ x : Double, x.isFinite = true → x.IsLiteral (Double.literal x).toList) ∧
    (∀ field lon lat radius unit t, Filter.withinRadius field lon lat radius unit = .ok t →
      IsSent (Filter.circleSlots ("@" ++ Escape.field field) lon lat radius unit) t.build) ∧
    (∀ field lon lat radius unit t, Filter.outsideRadius field lon lat radius unit = .ok t →
      IsSent (.fixed "-" :: Filter.circleSlots ("@" ++ Escape.field field) lon lat radius unit)
        t.build) ∧
    (∀ draft query changes, Range.Draft.build draft = .ok query →
      IsSent (after Range.Change.call query changes).slots
        (after Range.Change.call query changes).queryString) ∧
    (∀ draft query changes, FullText.Draft.build draft = .ok query →
      IsSent (after OrderChange.call query changes).slots
        (after OrderChange.call query changes).queryString) :=
  ⟨fun _ => Double.isLiteral_literal,
    fun _ _ _ _ _ _ => Filter.isSent_of_withinRadius,
    fun _ _ _ _ _ _ => Filter.isSent_of_outsideRadius,
    fun _ _ changes h => Range.isSent_of_build (Range.rebuilds.build_settled h changes),
    fun _ _ changes h => FullText.isSent_of_build (FullText.rebuilds.build_settled h changes)⟩

/-- The least number that is not zero as a distance, as an approximation
factor that is set on a built range, and as a weight. The place lies on the
zero meridian from the west. -/
theorem numbers_sent_exactly_least :
    let least : Double := ⟨false, 1, by decide⟩
    let west : Double := Binary.signedZero true
    let range : Range.Draft := {
      vector := {
        values := [Binary.zero]
        field := "embedding"
        dtype := .float32
        weight := least
        payload := [0, 0, 0, 0]
      }
      threshold := west
    }
    let text : FullText.Draft := { text := "fast", fields := [⟨"title", least⟩] }
    least.IsLiteral (Double.literal least).toList ∧
    (∃ t, Filter.withinRadius "place" west Filter.maxLatitude least .metres = .ok t ∧
      IsSent (Filter.circleSlots ("@" ++ Escape.field "place") west Filter.maxLatitude least
        .metres) t.build) ∧
    (∃ t, Filter.outsideRadius "place" west Filter.maxLatitude least .metres = .ok t ∧
      IsSent (.fixed "-" :: Filter.circleSlots ("@" ++ Escape.field "place") west
        Filter.maxLatitude least .metres) t.build) ∧
    (∃ query, range.build = .ok query ∧
      IsSent (after Range.Change.call query [.epsilon least]).slots
        (after Range.Change.call query [.epsilon least]).queryString) ∧
    ∃ query, text.build = .ok query ∧
      IsSent (after OrderChange.call query [.clearSort]).slots
        (after OrderChange.call query [.clearSort]).queryString := by
  intro least west range text
  have hplace : Filter.checkPlace west Filter.maxLatitude = .ok () :=
    Filter.checkPlace_eq_ok.mpr ⟨if_pos (by decide +kernel), if_pos (by decide +kernel)⟩
  have hradius : (least.isFinite && least.isPositive) = true := by decide
  obtain ⟨circle, hcircle⟩ : ∃ circle, Filter.circle ("@" ++ Escape.field "place") west
      Filter.maxLatitude least .metres = .ok circle :=
    ⟨_, Filter.circle_eq_ok.mpr ⟨hplace, hradius, rfl⟩⟩
  have hfield : Filter.fieldRef "place" = .ok ("@" ++ Escape.field "place") :=
    Filter.fieldRef_eq_ok (by decide)
  have hwithin : Filter.withinRadius "place" west Filter.maxLatitude least .metres
      = .ok (.leaf ⟨.geo, "place", circle⟩) :=
    bind_eq_ok.mpr ⟨_, hfield, bind_eq_ok.mpr ⟨_, hcircle, rfl⟩⟩
  have houtside : Filter.outsideRadius "place" west Filter.maxLatitude least .metres
      = .ok (.leaf ⟨.geo, "place", "-" ++ circle⟩) :=
    bind_eq_ok.mpr ⟨_, hfield, bind_eq_ok.mpr ⟨_, hcircle, rfl⟩⟩
  obtain ⟨rangeQuery, hrange⟩ : ∃ query, range.build = .ok query := ⟨_, rfl⟩
  obtain ⟨words, hwords⟩ : ∃ words, TextClause.wordsOf .none "fast" = .ok words := ⟨_, rfl⟩
  have hfields : WeightedField.checkAll [⟨"title", ⟨false, 1, by decide⟩⟩] = .ok () := rfl
  have hscorer : requireName "scorer" FullText.defaultScorer = .ok () := rfl
  obtain ⟨textQuery, htext⟩ : ∃ query, text.build = .ok query :=
    ⟨_, FullText.Draft.build_eq_ok.mpr
      ⟨Bool.false_ne_true, hfields, hscorer, words, hwords, _, rfl, rfl⟩⟩
  obtain ⟨hliteral, hwithins, houtsides, hranges, htexts⟩ := numbers_sent_exactly
  exact ⟨hliteral _ (by decide), ⟨_, hwithin, hwithins _ _ _ _ _ _ hwithin⟩,
    ⟨_, houtside, houtsides _ _ _ _ _ _ houtside⟩, ⟨_, hrange, hranges _ _ _ hrange⟩,
    _, htext, htexts _ _ _ htext⟩

end Query

end SearchQuery
