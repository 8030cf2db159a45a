import SearchQuery.Filter.Basic
import SearchQuery.Proofs.Syntax.Reading

/-!
# The meaning of a filter

A filter tree has a truth of its own once its leaves have one, and the text
that `Filter.build` writes has the truth of its reading. The two are the
same: writing a tree keeps its meaning.

A leaf's expression is `*`, an atom or a negated atom (`isLeafText`), and a
composite has an operand (`isReadable`); `Filter.allOf` and `Filter.anyOf`
make no other composites.

## What is proved

`existsUnique_reading_build` — the text of a readable tree has exactly one
reading, and that reading holds under an assignment to the atoms exactly
when the tree does. Uniqueness is the grammar's (`Reading.text_injective`).
Existence goes along the tree, one lemma for each way of joining: a
disjunction writes a group or a joined group (`exists_reading_joinAny`),
and a conjunction first drops the operands written as `*`
(`exists_reading_joinAll`), which the grammar reads as true and as nothing
else (`Reading.text_eq_star`).
-/

namespace SearchQuery.Filter

open SearchQuery.Syntax

/-! ## Truth -/

/-- The truth of a leaf's expression under an assignment to the atoms. -/
def leafHolds (v : List Char → Bool) : List Char → Bool
  | ['*'] => true
  | '-' :: cs => !v cs
  | cs => v cs

mutual

/-- The truth of a filter under an assignment to the atoms. -/
def holds (v : List Char → Bool) : Filter → Bool
  | leaf l => leafHolds v l.expression.toList
  | all operands => (holdsEach v operands).all id
  | any operands => (holdsEach v operands).any id
  | not operand => !operand.holds v

/-- The truth of each of some filters. -/
def holdsEach (v : List Char → Bool) : List Filter → List Bool
  | [] => []
  | operand :: operands => operand.holds v :: holdsEach v operands

end

/-! ## Readable trees -/

/-- The expression of a leaf is `*`, an atom or a negated atom. -/
def isLeafText : List Char → Bool
  | ['*'] => true
  | '-' :: cs => isAtom cs
  | cs => isAtom cs

mutual

/-- The expressions of the leaves are of the three forms, and every
composite has an operand. -/
def isReadable : Filter → Bool
  | leaf l => isLeafText l.expression.toList
  | all operands => !operands.isEmpty && areReadable operands
  | any operands => !operands.isEmpty && areReadable operands
  | not operand => operand.isReadable

/-- Each of the filters is readable. -/
def areReadable : List Filter → Bool
  | [] => true
  | operand :: operands => operand.isReadable && areReadable operands

end

/-! ## Readings of the parts -/

/-- The text of a reading as it is written. -/
def written (r : Reading) : String := String.ofList r.text

theorem toList_written (r : Reading) : (written r).toList = r.text := String.toList_ofList

/-- A reading is written as the condition that every document meets exactly
when it is that condition. -/
theorem written_eq_wildcard {r : Reading} : written r = wildcard ↔ r = .everything := by
  have hstar : wildcard = String.ofList ['*'] := by decide
  rw [written, hstar, String.ofList_inj, Reading.text_eq_star]

/-- An assignment reads a leaf's expression as it reads the expression's
parse tree. -/
theorem exists_reading_leaf {cs : List Char} (h : isLeafText cs = true) :
    ∃ r : Reading, r.text = cs ∧ ∀ v, r.holds v = leafHolds v cs := by
  unfold isLeafText at h
  split at h
  · exact ⟨.everything, rfl, fun _ => rfl⟩
  · next cs => exact ⟨.minus (.atom ⟨cs, h⟩), rfl, fun _ => rfl⟩
  · next hstar hminus =>
    refine ⟨.atom ⟨cs, h⟩, rfl, fun v => ?_⟩
    unfold leafHolds
    split
    · exact absurd rfl hstar
    · next cs => exact absurd rfl (hminus cs)
    · rfl

/-- The text of several operands behind their joints. -/
theorem intercalate_text (joint : Joint) (r : Reading) (rs : List Reading) :
    joint.text.intercalate ((r :: rs).map Reading.text) =
      r.text ++ Reading.textAfter joint rs := by
  induction rs generalizing r with
  | nil => rw [List.map_singleton, List.intercalate_singleton, Reading.textAfter, List.append_nil]
  | cons s rs ih =>
    have hs := ih s
    rw [List.map_cons] at hs
    rw [List.map_cons, List.map_cons, List.intercalate_cons_cons, hs, Reading.textAfter,
      List.append_assoc]

/-- What is written between parentheses is the text of a joined group. -/
theorem parenthesized_eq_joined (joint : Joint) (r s : Reading) (rest : List Reading) :
    "(" ++ (String.ofList joint.text).intercalate ((r :: s :: rest).map written) ++ ")" =
      written (.joined joint r s rest) := by
  have htexts : ((r :: s :: rest).map written).map String.toList =
      (r :: s :: rest).map Reading.text := by
    rw [List.map_map]
    exact List.map_congr_left fun r _ => toList_written r
  apply String.toList_injective
  simp only [String.toList_append, String.toList_intercalate, htexts, String.toList_ofList,
    intercalate_text, toList_written, Reading.text, Reading.textAfter, List.append_assoc]
  rfl

/-- A disjunction of written readings is written as a reading that holds
when one of them does. -/
theorem exists_reading_joinAny {rs : List Reading} (h : rs ≠ []) :
    ∃ r : Reading, written r = joinAny (rs.map written) ∧
      ∀ v, r.holds v = (rs.map (Reading.holds v)).any id := by
  match rs with
  | [] => exact absurd rfl h
  | [r] =>
    refine ⟨.group r, ?_, fun v => ?_⟩
    · apply String.toList_injective
      rw [joinAny, List.map_singleton, String.intercalate_singleton, String.toList_append,
        String.toList_append, toList_written, toList_written]
      rfl
    · simp only [Reading.holds, List.map_cons, List.map_nil, List.any_cons, List.any_nil, id,
        Bool.or_false]
  | r :: s :: rest =>
    refine ⟨.joined .disj r s rest, (parenthesized_eq_joined .disj r s rest).symm, fun v => ?_⟩
    simp only [Reading.holds, Joint.holds, Reading.holdsEach_eq_map, List.map_cons]

/-- The readings that a conjunction keeps. -/
def kept (rs : List Reading) : List Reading := rs.filter (written · != wildcard)

/-- What a conjunction drops holds anyway. -/
theorem all_holds_kept (v : List Char → Bool) (rs : List Reading) :
    ((kept rs).map (Reading.holds v)).all id = (rs.map (Reading.holds v)).all id := by
  induction rs with
  | nil => rfl
  | cons r rs ih =>
    by_cases hr : written r = wildcard
    · have hdropped : kept (r :: rs) = kept rs :=
        List.filter_cons_of_neg (by simp only [hr, bne_self_eq_false, Bool.false_eq_true,
          not_false_eq_true])
      rw [hdropped, ih, written_eq_wildcard.mp hr]
      simp only [List.map_cons, List.all_cons, Reading.holds, id, Bool.true_and]
    · have hkept : kept (r :: rs) = r :: kept rs :=
        List.filter_cons_of_pos (by simp only [bne_iff_ne, ne_eq, hr, not_false_eq_true])
      rw [hkept]
      simp only [List.map_cons, List.all_cons, ih]

/-- A conjunction of written readings is written as a reading that holds
when all of them do. -/
theorem exists_reading_joinAll (rs : List Reading) :
    ∃ r : Reading, written r = joinAll (rs.map written) ∧
      ∀ v, r.holds v = (rs.map (Reading.holds v)).all id := by
  have hparts : (rs.map written).filter (· != wildcard) = (kept rs).map written :=
    List.filter_map
  simp only [joinAll, hparts, ← all_holds_kept _ rs]
  match kept rs with
  | [] => exact ⟨.everything, written_eq_wildcard.mpr rfl, fun _ => rfl⟩
  | [r] =>
    refine ⟨r, rfl, fun v => ?_⟩
    simp only [List.map_cons, List.map_nil, List.all_cons, List.all_nil, id, Bool.and_true]
  | r :: s :: rest =>
    refine ⟨.joined .conj r s rest, (parenthesized_eq_joined .conj r s rest).symm, fun v => ?_⟩
    simp only [Reading.holds, Joint.holds, Reading.holdsEach_eq_map, List.map_cons]

/-! ## Readings of trees -/

mutual

/-- A readable tree is written as a reading of the same meaning. -/
theorem exists_reading_build : ∀ t : Filter, t.isReadable = true →
    ∃ r : Reading, written r = t.build ∧ ∀ v, r.holds v = t.holds v
  | leaf l, h => by
    obtain ⟨r, htext, hholds⟩ := exists_reading_leaf h
    refine ⟨r, ?_, hholds⟩
    rw [written, htext, String.ofList_toList, build]
  | all operands, h => by
    obtain ⟨rs, hwritten, hholds⟩ :=
      exists_readings_buildEach operands (Bool.and_eq_true_iff.mp h).2
    obtain ⟨r, hr, htruth⟩ := exists_reading_joinAll rs
    refine ⟨r, ?_, fun v => ?_⟩
    · rw [hr, hwritten, build]
    · rw [htruth, hholds, holds]
  | any operands, h => by
    obtain ⟨hsome, hoperands⟩ := Bool.and_eq_true_iff.mp h
    obtain ⟨rs, hwritten, hholds⟩ := exists_readings_buildEach operands hoperands
    have hne : rs ≠ [] := by
      rintro rfl
      cases operands with
      | nil => cases hsome
      | cons operand operands => cases hwritten
    obtain ⟨r, hr, htruth⟩ := exists_reading_joinAny hne
    refine ⟨r, ?_, fun v => ?_⟩
    · rw [hr, hwritten, build]
    · rw [htruth, hholds, holds]
  | not operand, h => by
    obtain ⟨r, hr, hholds⟩ := exists_reading_build operand h
    refine ⟨.minus r, ?_, fun v => ?_⟩
    · apply String.toList_injective
      rw [build, ← hr, String.toList_append, toList_written, toList_written]
      rfl
    · rw [Reading.holds, hholds, holds]

/-- Readable trees are written as readings of the same meanings. -/
theorem exists_readings_buildEach : ∀ ts : List Filter, areReadable ts = true →
    ∃ rs : List Reading, rs.map written = buildEach ts ∧
      ∀ v, rs.map (Reading.holds v) = holdsEach v ts
  | [], _ => ⟨[], rfl, fun _ => rfl⟩
  | t :: ts, h => by
    obtain ⟨ht, hts⟩ := Bool.and_eq_true_iff.mp h
    obtain ⟨r, hr, hholds⟩ := exists_reading_build t ht
    obtain ⟨rs, hrs, hholdsEach⟩ := exists_readings_buildEach ts hts
    refine ⟨r :: rs, ?_, fun v => ?_⟩
    · rw [List.map_cons, hr, hrs, buildEach]
    · rw [List.map_cons, hholds, hholdsEach, holdsEach]

end

/-- **Writing keeps the meaning.** The text of a readable tree has exactly
one reading, and under every assignment to the atoms that reading has the
truth of the tree. -/
theorem existsUnique_reading_build (t : Filter) (h : t.isReadable = true) :
    ∃ r : Reading, r.text = t.build.toList ∧
      (∀ r' : Reading, r'.text = t.build.toList → r' = r) ∧
      ∀ v : List Char → Bool, r.holds v = t.holds v := by
  obtain ⟨r, hwritten, hholds⟩ := exists_reading_build t h
  have htext : r.text = t.build.toList := by
    rw [← hwritten, toList_written]
  exact ⟨r, htext, fun r' hr' => Reading.text_injective (hr'.trans htext.symm), hholds⟩

/-- A tree in which a wildcard drops out, one operand survives, one stands
alone in a disjunction, and a minus sign stands before a group and before
everything. -/
theorem existsUnique_reading_build_nested :
    let t := any [all [matchAll, not (any [leaf ⟨.tag, "a", "@a:\x7bx|y\x7d"⟩])],
      all [leaf ⟨.text, "b", "-@b:(c d)"⟩, matchAll, not matchAll]]
    t.isReadable = true ∧ t.build = "(-(@a:\x7bx|y\x7d) | (-@b:(c d) -*))" ∧
      ∃ r : Reading, r.text = t.build.toList ∧
        (∀ r' : Reading, r'.text = t.build.toList → r' = r) ∧
        ∀ v : List Char → Bool, r.holds v = t.holds v :=
  ⟨by decide, by decide, existsUnique_reading_build _ (by decide)⟩

end SearchQuery.Filter
