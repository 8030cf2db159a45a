import SearchQuery.Filter.Numeric
import SearchQuery.Proofs.Accepted
import SearchQuery.Proofs.Binary.Nearest
import SearchQuery.Proofs.Decimal.Figures
import SearchQuery.Proofs.Decimal.Numeral

/-!
# Numeric filters mean their comparison

A condition on a number is written as a range. Read as one
(`NumericRange.ofText?`), it accepts a finite number exactly when the number
stands in the comparison that was asked for, whatever the operand.

## What is proved

`Filter.conditions_mean` — for every field that has a name: a comparison is
refused exactly when its operand is not a number, the conditions on two ends
exactly when one of them is not a number or they are the wrong way round,
and every other condition is a range that accepts what it should.

- A literal is read as a number of the same value
  (`Double.exists_ofLiteral?_literal`), since the shortest decimal reads back
  and the zeros are one value.
- A bound is read as that number with its parenthesis
  (`Endpoint.exists_ofText?_bound`). The parenthesis that an infinity never
  takes makes no difference: no finite number is an infinity.
- The range is found from its end: no bound has a bracket or a space in it
  (`NumericRange.ofText?_numericRange`), so the reference may be any text.
-/

namespace SearchQuery

/-! ## Comparisons -/

/-- A number stands in a comparison to another. -/
def Comparison.Holds (c : Comparison) (x y : Double) : Prop :=
  match c with
  | .eq => x.value = y.value
  | .ne => x.value ≠ y.value
  | .gt => y.value < x.value
  | .gte => y.value ≤ x.value
  | .lt => x.value < y.value
  | .lte => x.value ≤ y.value

/-- A number lies between two others, of which some may be the number. -/
def Inclusive.Holds (ends : Inclusive) (min max x : Double) : Prop :=
  match ends with
  | .both => min.value ≤ x.value ∧ x.value ≤ max.value
  | .neither => min.value < x.value ∧ x.value < max.value
  | .left => min.value ≤ x.value ∧ x.value < max.value
  | .right => min.value < x.value ∧ x.value ≤ max.value

/-! ## Reading ranges -/

/-- The number that a literal says: an infinity, or the number nearest to
what a numeral says. -/
def Double.ofLiteral? (cs : List Char) : Option Double :=
  if cs = ['-', 'i', 'n', 'f'] then some (Binary.infinity true)
  else if cs = ['+', 'i', 'n', 'f'] then some (Binary.infinity false)
  else (Decimal.ofText? cs).map fun d => Binary.ofMagnitude d.negative d.magnitude

/-- An end of a range. -/
structure Endpoint where
  number : Double
  /-- The number itself is left out. -/
  isStrict : Bool

namespace Endpoint

/-- The end that a text says: a parenthesis leaves the number out. -/
def ofText? : List Char → Option Endpoint
  | '(' :: cs => (Double.ofLiteral? cs).map (⟨·, true⟩)
  | cs => (Double.ofLiteral? cs).map (⟨·, false⟩)

/-- A number lies on the upper side of the end. -/
def IsBelow (e : Endpoint) (x : Double) : Prop :=
  if e.isStrict then e.number.value < x.value else e.number.value ≤ x.value

/-- A number lies on the lower side of the end. -/
def IsAbove (e : Endpoint) (x : Double) : Prop :=
  if e.isStrict then x.value < e.number.value else x.value ≤ e.number.value

end Endpoint

/-- A range of the numbers behind a reference, or of all others. -/
structure NumericRange where
  reference : List Char
  isNegated : Bool
  lower : Endpoint
  upper : Endpoint

namespace NumericRange

/-- The two ends, with a space between them. -/
def ends? (cs : List Char) : Option (Endpoint × Endpoint) :=
  match cs.dropWhile (· != ' ') with
  | ' ' :: upper => do
    return (← Endpoint.ofText? (cs.takeWhile (· != ' ')), ← Endpoint.ofText? upper)
  | _ => none

/-- The range of the brackets that end a text. -/
def positive? (isNegated : Bool) (cs : List Char) : Option NumericRange :=
  match cs.reverse with
  | ']' :: rest =>
    match rest.dropWhile (· != '[') with
    | '[' :: ':' :: reference => do
      let (lower, upper) ← ends? (rest.takeWhile (· != '[')).reverse
      return ⟨reference.reverse, isNegated, lower, upper⟩
    | _ => none
  | _ => none

/-- The range that a text says: a minus sign before it negates it. -/
def ofText? : List Char → Option NumericRange
  | '-' :: cs => positive? true cs
  | cs => positive? false cs

/-- The range accepts a number. -/
def Accepts (range : NumericRange) (x : Double) : Prop :=
  if range.isNegated then ¬(range.lower.IsBelow x ∧ range.upper.IsAbove x)
  else range.lower.IsBelow x ∧ range.upper.IsAbove x

end NumericRange

/-! ## Literals -/

namespace Double

theorem infinity_pos : 0 < Format.double.infinity := by decide

/-- A literal is a text of figures, so it says an infinity only where it is
one. -/
theorem ofLiteral?_of_ofText? {cs : List Char} {d : Decimal} (h : Decimal.ofText? cs = some d) :
    ofLiteral? cs = some (Binary.ofMagnitude d.negative d.magnitude) := by
  have hminus : cs ≠ ['-', 'i', 'n', 'f'] := by
    rintro rfl
    cases h
  have hplus : cs ≠ ['+', 'i', 'n', 'f'] := by
    rintro rfl
    cases h
  rw [ofLiteral?, if_neg hminus, if_neg hplus, h]
  rfl

/-- The shortest digits of a finite number are read as the number. -/
theorem ofLiteral?_shortest (tie : Tie) {x : Double} (hx : x.isFinite = true) :
    ofLiteral? (x.shortest tie).text = some x := by
  obtain ⟨d, hd, hnegative, hmagnitude⟩ := (x.shortest tie).exists_ofText?_text
  rw [ofLiteral?_of_ofText? hd, hnegative, hmagnitude, Binary.ofMagnitude_shortest tie hx]

/-- **A literal is read as a number of the same value.** -/
theorem exists_ofLiteral?_literal {x : Double} (hx : x.isNaN = false) :
    ∃ y, ofLiteral? (literal x).toList = some y ∧ y.value = x.value := by
  unfold literal
  split
  · next hinfinite =>
    refine ⟨Binary.infinity x.negative, ?_, ?_⟩
    · cases x.negative <;> rfl
    · rw [Binary.value_infinity, Binary.value_of_isInfinite hinfinite]
  · split
    · next hzero =>
      refine ⟨Binary.zero, ofLiteral?_shortest .away (x := Binary.zero) rfl, ?_⟩
      rw [Binary.value_eq_value infinity_pos rfl hx, Binary.rank, Binary.rank,
        beq_iff_eq.mp hzero]
      cases x.negative <;> rfl
    · next hinfinite _ =>
      have hfinite := (Binary.isFinite_or_isInfinite hx).resolve_right hinfinite
      refine ⟨x, ?_, rfl⟩
      rw [Binary.display, hx, if_neg Bool.false_ne_true, if_neg hinfinite, String.toList_ofList]
      exact ofLiteral?_shortest .away hfinite

end Double

/-! ## Ends -/

namespace Endpoint

/-- A literal stands for itself, and no parenthesis with it. -/
theorem ofText?_literal {cs : List Char} {y : Double} (hcs : ∀ c ∈ cs, isFigure c = true)
    (h : Double.ofLiteral? cs = some y) : ofText? cs = some ⟨y, false⟩ := by
  unfold ofText?
  split
  · next cs =>
    have hparen := hcs '(' List.mem_cons_self
    cases hparen
  · rw [h]
    rfl

/-- **A bound is read as its number**, left out as it was asked for, as far
as finite numbers can tell. -/
theorem exists_ofText?_bound {x : Double} (hx : x.isNaN = false) (included : Bool) :
    ∃ e, ofText? (Filter.bound x included).toList = some e ∧
      ∀ y : Double, y.isFinite = true →
        (e.IsBelow y ↔ if included then x.value ≤ y.value else x.value < y.value) ∧
        (e.IsAbove y ↔ if included then y.value ≤ x.value else y.value < x.value) := by
  obtain ⟨n, hn, hvalue⟩ := Double.exists_ofLiteral?_literal hx
  have hfigures : ∀ c ∈ (Double.literal x).toList, isFigure c = true :=
    fun c => Double.isFigure_of_mem_literal
  unfold Filter.bound
  by_cases hplain : (included || x.isInfinite) = true
  · rw [if_pos hplain]
    refine ⟨⟨n, false⟩, ofText?_literal hfigures hn, ?_⟩
    intro y hy
    simp only [IsBelow, IsAbove, hvalue, Bool.false_eq_true, if_false]
    obtain hincluded | hinfinite := Bool.or_eq_true_iff.mp hplain
    · rw [if_pos hincluded, if_pos hincluded]
      exact ⟨Iff.rfl, Iff.rfl⟩
    · -- the parenthesis is left out, and nothing else is
      have hne := Binary.value_ne_value_of_isInfinite hinfinite hy
      cases included with
      | true => exact ⟨Iff.rfl, Iff.rfl⟩
      | false =>
        exact ⟨⟨fun h => lt_of_le_of_ne h hne, le_of_lt⟩,
          ⟨fun h => lt_of_le_of_ne h hne.symm, le_of_lt⟩⟩
  · rw [if_neg hplain, String.toList_append]
    have hincluded : included = false := by
      cases included
      · rfl
      · exact absurd rfl hplain
    refine ⟨⟨n, true⟩, ?_, ?_⟩
    · change (Double.ofLiteral? (Double.literal x).toList).map _ = _
      rw [hn]
      rfl
    · intro y _
      simp [IsBelow, IsAbove, hvalue, hincluded]

end Endpoint

/-! ## Ranges -/

namespace NumericRange

/-- A bound consists of figures, behind a parenthesis if it has one. -/
theorem ne_of_mem_bound {x : Double} {included : Bool} {c d : Char}
    (hc : c ∈ (Filter.bound x included).toList) (hd : isFigure d = false) (hparen : '(' ≠ d) :
    c ≠ d := by
  unfold Filter.bound at hc
  split at hc
  · exact ne_of_isFigure (Double.isFigure_of_mem_literal hc) hd
  · rw [String.toList_append] at hc
    obtain rfl | hc := List.mem_cons.mp hc
    · exact hparen
    · exact ne_of_isFigure (Double.isFigure_of_mem_literal hc) hd

/-- The ends of a range stand on either side of its space. -/
theorem ends?_append {lower upper : Endpoint} {before after : List Char}
    (hspace : ∀ c ∈ before, c ≠ ' ') (hlower : Endpoint.ofText? before = some lower)
    (hupper : Endpoint.ofText? after = some upper) :
    ends? (before ++ ' ' :: after) = some (lower, upper) := by
  obtain ⟨htake, hdrop⟩ := takeWhile_and_dropWhile_append (' ' :: after)
    (fun c hc => bne_iff_ne.mpr (hspace c hc)) (by simp)
  rw [ends?, htake, hdrop]
  simp only [hlower, hupper, Option.bind_eq_bind, Option.bind_some, Option.pure_def]

/-- The brackets that end a text have no bracket between them. -/
theorem positive?_append {lower upper : Endpoint} {inside : List Char} (isNegated : Bool)
    (reference : List Char) (hbracket : ∀ c ∈ inside, c ≠ '[')
    (hends : ends? inside = some (lower, upper)) :
    positive? isNegated (reference ++ ':' :: '[' :: (inside ++ [']']))
      = some ⟨reference, isNegated, lower, upper⟩ := by
  have hreverse : (reference ++ ':' :: '[' :: (inside ++ [']'])).reverse
      = ']' :: (inside.reverse ++ '[' :: ':' :: reference.reverse) := by
    simp
  obtain ⟨htake, hdrop⟩ := takeWhile_and_dropWhile_append ('[' :: ':' :: reference.reverse)
    (fun c hc => bne_iff_ne.mpr (hbracket c (List.mem_reverse.mp hc))) (by simp)
  rw [positive?, hreverse]
  simp only [htake, hdrop, List.reverse_reverse, hends, Option.bind_eq_bind, Option.bind_some,
    Option.pure_def]

/-- **A range is read from its end**, whatever its reference is. -/
theorem positive?_numericRange {min max : Double} {inclusive : Inclusive} {lower upper : Endpoint}
    (isNegated : Bool) (ref : String)
    (hlower : Endpoint.ofText? (Filter.bound min inclusive.includesMin).toList = some lower)
    (hupper : Endpoint.ofText? (Filter.bound max inclusive.includesMax).toList = some upper) :
    positive? isNegated (Filter.numericRange ref min max inclusive).toList
      = some ⟨ref.toList, isNegated, lower, upper⟩ := by
  have htext : (Filter.numericRange ref min max inclusive).toList
      = ref.toList ++ ':' :: '[' :: (((Filter.bound min inclusive.includesMin).toList
        ++ ' ' :: (Filter.bound max inclusive.includesMax).toList) ++ [']']) := by
    simp [Filter.numericRange, String.toList_append]
  rw [htext]
  refine positive?_append isNegated _ ?_ (ends?_append ?_ hlower hupper)
  · intro c hc
    obtain hc | hc := List.mem_append.mp hc
    · exact ne_of_mem_bound hc (by decide) (by decide)
    · obtain rfl | hc := List.mem_cons.mp hc
      · decide
      · exact ne_of_mem_bound hc (by decide) (by decide)
  · exact fun c hc => ne_of_mem_bound hc (by decide) (by decide)

/-- A range that is not negated begins with no minus sign. -/
theorem ofText?_of_positive? {cs : List Char} {range : NumericRange} (hcs : cs.head? ≠ some '-')
    (h : positive? false cs = some range) : ofText? cs = some range := by
  unfold ofText?
  split
  · exact absurd rfl hcs
  · exact h

end NumericRange

/-! ## Conditions -/

namespace Filter

/-- A range is read to two ends, and what lies between them is what its bounds
hold between them. -/
theorem exists_positive?_numericRange {min max : Double} (hmin : min.isNaN = false)
    (hmax : max.isNaN = false) (inclusive : Inclusive) (ref : String) :
    ∃ lower upper, (∀ isNegated, NumericRange.positive? isNegated
        (numericRange ref min max inclusive).toList = some ⟨ref.toList, isNegated, lower, upper⟩) ∧
      ∀ x : Double, x.isFinite = true →
        (lower.IsBelow x ∧ upper.IsAbove x ↔ inclusive.Holds min max x) := by
  obtain ⟨lower, hlower, hbelow⟩ := Endpoint.exists_ofText?_bound hmin inclusive.includesMin
  obtain ⟨upper, hupper, habove⟩ := Endpoint.exists_ofText?_bound hmax inclusive.includesMax
  refine ⟨lower, upper, ?_, ?_⟩
  · exact fun isNegated => NumericRange.positive?_numericRange isNegated ref hlower hupper
  · intro x hx
    rw [(hbelow x hx).1, (habove x hx).2]
    cases inclusive <;> exact Iff.rfl

/-- **A range accepts what lies between its ends**, with those that it
/-- A written range is read as one, and accepts the numbers between its ends. -/
includes. -/
theorem exists_range_numericRange {min max : Double} (hmin : min.isNaN = false)
    (hmax : max.isNaN = false) (inclusive : Inclusive) (name : String) :
    ∃ range, NumericRange.ofText? (numericRange ("@" ++ name) min max inclusive).toList
        = some range ∧
      range.reference = ("@" ++ name).toList ∧
      ∀ x : Double, x.isFinite = true → (range.Accepts x ↔ inclusive.Holds min max x) := by
  obtain ⟨lower, upper, hread, haccepts⟩ :=
    exists_positive?_numericRange hmin hmax inclusive ("@" ++ name)
  refine ⟨_, NumericRange.ofText?_of_positive? ?_ (hread false), rfl, haccepts⟩
  simp [numericRange, String.toList_append]

/-- A negated range accepts all other numbers. -/
theorem exists_range_minus_numericRange {min max : Double} (hmin : min.isNaN = false)
    (hmax : max.isNaN = false) (inclusive : Inclusive) (name : String) :
    ∃ range, NumericRange.ofText? ("-" ++ numericRange ("@" ++ name) min max inclusive).toList
        = some range ∧
      range.reference = ("@" ++ name).toList ∧
      ∀ x : Double, x.isFinite = true → (range.Accepts x ↔ ¬inclusive.Holds min max x) := by
  obtain ⟨lower, upper, hread, haccepts⟩ :=
    exists_positive?_numericRange hmin hmax inclusive ("@" ++ name)
  refine ⟨⟨("@" ++ name).toList, true, lower, upper⟩, ?_, rfl,
    fun x hx => not_congr (haccepts x hx)⟩
  rw [String.toList_append]
  exact hread true

/-- The range of a comparison accepts the numbers that it holds of. -/
theorem exists_range_comparisonRange (c : Comparison) {v : Double} (hv : v.isNaN = false)
    (name : String) :
    ∃ range, NumericRange.ofText? (comparisonRange ("@" ++ name) c v).toList = some range ∧
      range.reference = ("@" ++ name).toList ∧
      ∀ x : Double, x.isFinite = true → (range.Accepts x ↔ c.Holds x v) := by
  have hinfinity : ∀ negative, (Binary.infinity negative : Double).isNaN = false :=
    fun negative => Binary.isNaN_ofOrdinal negative _
  cases c with
  | eq =>
    obtain ⟨range, hread, href, haccepts⟩ := exists_range_numericRange hv hv .both name
    refine ⟨range, hread, href, fun x hx => (haccepts x hx).trans ?_⟩
    exact and_comm.trans le_antisymm_iff.symm
  | ne =>
    obtain ⟨range, hread, href, haccepts⟩ := exists_range_minus_numericRange hv hv .both name
    refine ⟨range, hread, href, fun x hx => (haccepts x hx).trans ?_⟩
    exact not_congr (and_comm.trans le_antisymm_iff.symm)
  | gt =>
    obtain ⟨range, hread, href, haccepts⟩ :=
      exists_range_numericRange hv (hinfinity false) .right name
    refine ⟨range, hread, href, fun x hx => (haccepts x hx).trans ?_⟩
    rw [Inclusive.Holds, Binary.value_infinity]
    exact and_iff_left le_top
  | gte =>
    obtain ⟨range, hread, href, haccepts⟩ :=
      exists_range_numericRange hv (hinfinity false) .both name
    refine ⟨range, hread, href, fun x hx => (haccepts x hx).trans ?_⟩
    rw [Inclusive.Holds, Binary.value_infinity]
    exact and_iff_left le_top
  | lt =>
    obtain ⟨range, hread, href, haccepts⟩ :=
      exists_range_numericRange (hinfinity true) hv .left name
    refine ⟨range, hread, href, fun x hx => (haccepts x hx).trans ?_⟩
    rw [Inclusive.Holds, Binary.value_infinity]
    exact and_iff_right bot_le
  | lte =>
    obtain ⟨range, hread, href, haccepts⟩ :=
      exists_range_numericRange (hinfinity true) hv .both name
    refine ⟨range, hread, href, fun x hx => (haccepts x hx).trans ?_⟩
    rw [Inclusive.Holds, Binary.value_infinity]
    exact and_iff_right bot_le

/-! ## Refusals -/

theorem comparable_eq_ok {x : Double} (hx : x.isNaN = false) : comparable x = .ok x := by
  rw [comparable, hx]
  rfl

theorem comparable_eq_error {x : Double} (hx : x.isNaN = true) :
    comparable x = .error (.outOfRange "numeric value" .notComparable) := by
  rw [comparable, hx]
  rfl

section Refusals

variable {field : String} (hfield : Text.isBlank field = false)

include hfield

theorem compare_eq_ok (c : Comparison) {v : Double} (hv : v.isNaN = false) :
    compare field c v
      = .ok (leaf ⟨.numeric, field, comparisonRange ("@" ++ Escape.field field) c v⟩) := by
  rw [compare, fieldRef_eq_ok hfield, comparable_eq_ok hv]
  rfl

/-- A comparison is refused exactly when its operand is not a number. -/
theorem exists_compare_eq_error (c : Comparison) (v : Double) :
    (∃ cause, compare field c v = .error cause) ↔ v.isNaN = true := by
  constructor
  · rintro ⟨cause, h⟩
    by_contra hv
    rw [compare_eq_ok hfield c (Bool.eq_false_of_not_eq_true hv)] at h
    cases h
  · intro hv
    rw [compare, fieldRef_eq_ok hfield, comparable_eq_error hv]
    exact ⟨_, rfl⟩

/-- What a range of two numbers comes down to. -/
theorem between_eq {min max : Double} (hmin : min.isNaN = false) (hmax : max.isNaN = false)
    (inclusive : Inclusive) :
    between field min max inclusive
      = if max.lt min then .error (.outOfRange "numeric range" (.minAboveMax min max))
        else .ok (leaf
          ⟨.numeric, field, numericRange ("@" ++ Escape.field field) min max inclusive⟩) := by
  rw [between, fieldRef_eq_ok hfield, comparable_eq_ok hmin, comparable_eq_ok hmax]
  change (if max.lt min = true then _ else _) = _
  split <;> rfl

theorem between_eq_ok {min max : Double} (hmin : min.isNaN = false) (hmax : max.isNaN = false)
    (hle : min.value ≤ max.value) (inclusive : Inclusive) :
    between field min max inclusive
      = .ok (leaf ⟨.numeric, field, numericRange ("@" ++ Escape.field field) min max inclusive⟩) := by
  rw [between_eq hfield hmin hmax, if_neg]
  rw [Binary.lt_iff_value_lt Double.infinity_pos hmax hmin]
  exact not_lt.mpr hle

/-- A range is refused exactly when an end is not a number or the ends are the
wrong way round. -/
theorem exists_between_eq_error (min max : Double) (inclusive : Inclusive) :
    (∃ cause, between field min max inclusive = .error cause) ↔
      min.isNaN = true ∨ max.isNaN = true ∨ max.value < min.value := by
  constructor
  · rintro ⟨cause, h⟩
    by_contra hnot
    simp only [not_or, Bool.not_eq_true, not_lt] at hnot
    obtain ⟨hmin, hmax, hle⟩ := hnot
    rw [between_eq_ok hfield hmin hmax hle] at h
    cases h
  · intro hends
    cases hmin : min.isNaN with
    | true =>
      rw [between, fieldRef_eq_ok hfield, comparable_eq_error hmin]
      exact ⟨_, rfl⟩
    | false =>
      cases hmax : max.isNaN with
      | true =>
        rw [between, fieldRef_eq_ok hfield, comparable_eq_ok hmin, comparable_eq_error hmax]
        exact ⟨_, rfl⟩
      | false =>
        simp only [hmin, hmax, Bool.false_eq_true, false_or] at hends
        rw [between_eq hfield hmin hmax, if_pos]
        · exact ⟨_, rfl⟩
        · exact (Binary.lt_iff_value_lt Double.infinity_pos hmax hmin).mpr hends

end Refusals

/-- **Conditions on numbers mean what they say**, for every field that has a
name. A comparison is refused exactly when its operand is not a number, and
is otherwise a range of the field that accepts a finite number exactly when
the number stands in the comparison. A condition on two ends is refused
exactly when one is not a number or they are the wrong way round, and is
otherwise a range that accepts what lies between them. -/
theorem conditions_mean (field : String) (hfield : Text.isBlank field = false) :
    (∀ (c : Comparison) (v : Double),
      (∃ cause, compare field c v = .error cause) ↔ v.isNaN = true) ∧
    (∀ (c : Comparison) (v : Double), v.isNaN = false →
      ∃ filter range, compare field c v = .ok filter ∧
        NumericRange.ofText? filter.build.toList = some range ∧
        range.reference = ("@" ++ Escape.field field).toList ∧
        ∀ x : Double, x.isFinite = true → (range.Accepts x ↔ c.Holds x v)) ∧
    (∀ (min max : Double) (inclusive : Inclusive),
      (∃ cause, between field min max inclusive = .error cause) ↔
        min.isNaN = true ∨ max.isNaN = true ∨ max.value < min.value) ∧
    (∀ (min max : Double) (inclusive : Inclusive), min.isNaN = false → max.isNaN = false →
      min.value ≤ max.value →
      ∃ filter range, between field min max inclusive = .ok filter ∧
        NumericRange.ofText? filter.build.toList = some range ∧
        range.reference = ("@" ++ Escape.field field).toList ∧
        ∀ x : Double, x.isFinite = true → (range.Accepts x ↔ inclusive.Holds min max x)) := by
  refine ⟨exists_compare_eq_error hfield, ?_, exists_between_eq_error hfield, ?_⟩
  · intro c v hv
    obtain ⟨range, hrange⟩ := exists_range_comparisonRange c hv (Escape.field field)
    exact ⟨_, range, compare_eq_ok hfield c hv, hrange⟩
  · intro min max inclusive hmin hmax hle
    obtain ⟨range, hrange⟩ :=
      exists_range_numericRange hmin hmax inclusive (Escape.field field)
    exact ⟨_, range, between_eq_ok hfield hmin hmax hle inclusive, hrange⟩

/-- The greatest number below zero: the zeros are above it, and it is not
above itself. -/
theorem conditions_mean_subnormal :
    let v : Double := ⟨true, 1, by decide⟩
    ∃ filter range, compare "price" .gt v = .ok filter ∧
      NumericRange.ofText? filter.build.toList = some range ∧
      range.Accepts Binary.zero ∧ range.Accepts (Binary.signedZero true) ∧ ¬range.Accepts v := by
  intro v
  obtain ⟨filter, range, hfilter, hrange, -, haccepts⟩ :=
    (conditions_mean "price" (by decide)).2.1 .gt v (by decide)
  refine ⟨filter, range, hfilter, hrange, ?_, ?_, ?_⟩
  · refine (haccepts _ (by decide)).mpr ?_
    exact (Binary.value_lt_value Double.infinity_pos (by decide) (by decide)).mpr (by decide)
  · refine (haccepts _ (by decide)).mpr ?_
    exact (Binary.value_lt_value Double.infinity_pos (by decide) (by decide)).mpr (by decide)
  · exact fun h => lt_irrefl _ ((haccepts v (by decide)).mp h)

end Filter

end SearchQuery
