import SearchQuery.Proofs.Binary.Integer
import SearchQuery.Proofs.Binary.Overflow
import SearchQuery.Proofs.Decimal.Places
import SearchQuery.Proofs.Query.ValidSettings

/-!
# The weights of a blend

A hybrid query prints two weights: that of the similarity, and what is left of
one for the text. The subtraction is one of double precision, and then both
are rounded to ten places.

## What is proved

`rounds_to_places` — numbers with a fixed count of places, and trimmed ones,
say the nearest multiple of the unit of the last place. So each weight of a
blend is within half of that unit of the number it stands for, which is finite
whatever blend was accepted.
-/

namespace SearchQuery

namespace Query.Hybrid

/-- A numeral stands for a finite number, up to half a unit of the tenth
place. -/
structure IsWeight (x : Double) (p : PlainNumeral) : Prop where
  isFinite : x.isFinite = true
  near : ∃ q, Decimal.ReadsAs p.text q ∧ |q - x.toRat| ≤ 1 / 2 * 10 ^ (-10 : Int)

/-- The last step of a pipeline is the sum of the scores, each behind its
weight. -/
def Blends (pipeline : Pipeline) (rest similarity : PlainNumeral) : Prop :=
  ∃ blend, pipeline.apply.getLast? = some ⟨blend, "hybrid_score"⟩ ∧
    blend.toList = rest.text ++ "*@text_score + ".toList ++ similarity.text
      ++ "*@vector_similarity".toList

theorem isWeight_plain {x : Double} (hx : x.isFinite = true) : IsWeight x (x.numeral 10).plain where
  isFinite := hx
  near := by
    refine ⟨_, Double.readsAs_plain x, ?_⟩
    have hhalf := Double.abs_toRat_rounded_sub_le 10 x
    rw [placeUnit] at hhalf
    calc |(x.rounded 10).toRat - x.toRat| ≤ 10 ^ (-((10 : Nat) : Int)) / 2 := hhalf
      _ = 1 / 2 * 10 ^ (-10 : Int) := by norm_num

/-- A blend that is accepted lies between zero and one, and so does the rest
of it. -/
theorem isFinite_of_checkAlpha {alpha : Double} (h : checkAlpha alpha = .ok ()) :
    alpha.isFinite = true ∧ ((Binary.ofInt 1 : Double).sub alpha).isFinite = true := by
  obtain ⟨halpha, hnonneg, hle⟩ := checkAlpha_eq_ok.mp h
  obtain ⟨hone, hvalue⟩ := Binary.toRat_ofInt Format.double_holdsIntegers (n := 1) (by decide)
  refine ⟨halpha, Binary.isFinite_sub hone hone halpha ?_⟩
  rw [← Binary.abs_toRat, hvalue, Int.cast_one, abs_one, abs_le]
  exact ⟨by linarith, by linarith⟩

/-- The weights of a blend are written as the numerals of its parts. -/
theorem blends_pipeline {query : Hybrid} (halpha : query.alpha.isFinite = true)
    (hrest : ((Binary.ofInt 1 : Double).sub query.alpha).isFinite = true) :
    Blends query.pipeline (Double.numeral 10 ((Binary.ofInt 1).sub query.alpha)).plain
      (query.alpha.numeral 10).plain := by
  refine ⟨blendExpression query.alpha, rfl, ?_⟩
  rw [← Double.toList_trimmed hrest, ← Double.toList_trimmed halpha]
  simp [blendExpression, textScoreAlias, similarityAlias]

/-- **Rounding to places is right**, of every finite number and to any count
of places, and so are the weights of a blend. -/
theorem rounds_to_places :
    (∀ (x : Double) (places : Nat), x.isFinite = true →
      ∃ n : Numeral, n.text = (Double.fixed places x).toList ∧ x.IsFixed places n) ∧
    (∀ (x y : Double) (places : Nat), x.isFinite = true → y.isFinite = true → x.le y = true →
      ∃ q r, Decimal.ReadsAs (Double.fixed places x).toList q ∧
        Decimal.ReadsAs (Double.fixed places y).toList r ∧ q ≤ r) ∧
    (∀ x : Double, x.isFinite = true →
      ∃ p : PlainNumeral, p.text = (Double.trimmed x).toList ∧ x.IsTrimmed p) ∧
    ∀ (draft : Draft) (query : Hybrid), draft.build = .ok query →
      ∃ rest similarity, Blends query.pipeline rest similarity ∧
        IsWeight ((Binary.ofInt 1 : Double).sub draft.alpha) rest ∧
        IsWeight draft.alpha similarity := by
  refine ⟨fun x places hx => ?_, fun x y places hx hy h => ?_, fun x hx => ?_,
    fun draft query hbuild => ?_⟩
  · exact ⟨_, (Double.toList_fixed hx places).symm, Double.isFixed_numeral places x⟩
  · exact ⟨_, _, Double.readsAs_fixed hx places, Double.readsAs_fixed hy places,
      Double.toRat_rounded_le (Binary.toRat_le_of_le h)⟩
  · exact ⟨_, (Double.toList_trimmed hx).symm, Double.isTrimmed_plain hx⟩
  · obtain ⟨-, hcheck, -, -, -, words, -, rfl⟩ := Draft.build_eq_ok.mp hbuild
    obtain ⟨halpha, hrest⟩ := isFinite_of_checkAlpha hcheck
    exact ⟨_, _, blends_pipeline halpha hrest, isWeight_plain hrest, isWeight_plain halpha⟩

/-- An eighth has a tie in its third place, and the least number below zero
leaves nothing behind its sign. -/
theorem rounds_to_places_tie :
    let eighth : Double := ⟨false, 1020 * 2 ^ 52, by decide⟩
    let below : Double := ⟨true, 1, by decide⟩
    let draft : Draft := {
      text := "fast"
      textField := "description"
      vector := {
        values := [Binary.zero]
        field := "embedding"
        dtype := .float32
        weight := eighth
        payload := [0, 0, 0, 0]
      }
      alpha := eighth
      stopwords := .none
    }
    (Double.fixed 2 eighth = "0.12" ∧ Double.fixed 2 below = "0.00" ∧
      Double.trimmed eighth = "0.125") ∧
    (∃ n : Numeral, n.text = (Double.fixed 2 eighth).toList ∧ eighth.IsFixed 2 n) ∧
    (below.le eighth = true ∧ ∃ q r, Decimal.ReadsAs (Double.fixed 2 below).toList q ∧
      Decimal.ReadsAs (Double.fixed 2 eighth).toList r ∧ q ≤ r) ∧
    (∃ p : PlainNumeral, p.text = (Double.trimmed eighth).toList ∧ eighth.IsTrimmed p) ∧
    ∃ query, draft.build = .ok query ∧ ∃ rest similarity, Blends query.pipeline rest similarity ∧
      IsWeight ((Binary.ofInt 1 : Double).sub draft.alpha) rest ∧
      IsWeight draft.alpha similarity := by
  intro eighth below draft
  have hfinite : eighth.isFinite = true := by decide
  have hbelow : below.isFinite = true := by decide
  have hle : below.le eighth = true := by decide
  have hname : requireName "text field" "description" = .ok () := rfl
  have halpha : checkAlpha eighth = .ok () := if_pos (by decide +kernel)
  obtain ⟨words, hwords⟩ : ∃ words, TextClause.wordsOf .none "fast" = .ok words := ⟨_, rfl⟩
  obtain ⟨query, hbuild⟩ : ∃ query, draft.build = .ok query :=
    ⟨_, Draft.build_eq_ok.mpr ⟨hname, halpha, rfl, rfl, rfl, words, hwords, rfl⟩⟩
  obtain ⟨hfixed, hmono, htrimmed, hblend⟩ := rounds_to_places
  exact ⟨⟨by decide +kernel, by decide +kernel, by decide +kernel⟩, hfixed eighth 2 hfinite,
    ⟨hle, hmono below eighth 2 hbelow hfinite hle⟩, htrimmed eighth hfinite,
    query, hbuild, hblend draft query hbuild⟩

end Query.Hybrid

end SearchQuery
