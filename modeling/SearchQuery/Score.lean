import SearchQuery.Decimal.Literal

/-!
# Scores

Cosine distances lie between zero and two. A distance is first made a
similarity between zero and one; scores are then blended linearly. All
sums and products are those of double precision, in the order written.
-/

namespace SearchQuery

namespace Score

/-- The similarity of a cosine distance. -/
def similarity (distance : Double) : Double := ((Binary.ofInt 2 : Double).sub distance).half

/-- The blend of a text score and a similarity. The first weight is the
similarity's. -/
def blend (alpha text vector : Double) : Double :=
  (((Binary.ofInt 1 : Double).sub alpha).mul text).add (alpha.mul vector)

/-- The name of the score of a vector, by its position. -/
def name (position : Nat) : String := "score_" ++ toString position

end Score

/-- A weighted sum of the scores of several vectors. -/
structure Formula where
  weights : List Double

namespace Formula

/-- How many places a weight is written with. -/
def weightPlaces : Nat := 2

/-- One term: the weight of a position times its score. -/
def term (sigil : String) (position : Nat) (weight : Double) : String :=
  weight.fixed weightPlaces ++ " * " ++ sigil ++ Score.name position

/-- The terms from a position on. -/
def terms (sigil : String) (position : Nat) : List Double → List String
  | [] => []
  | weight :: weights => term sigil position weight :: terms sigil (position + 1) weights

/-- The sum, with a sigil before each score. -/
def render (sigil : String) (formula : Formula) : String :=
  " + ".intercalate (terms sigil 0 formula.weights)

/-- The sum as a reader sees it. -/
def display (formula : Formula) : String := formula.render ""

/-- The sum as an expression over the fields of a row. -/
def expression (formula : Formula) : String := formula.render "@"

/-- A score of each weight: a missing one counts as zero. -/
def paired : List Double → List Double → List (Double × Double)
  | [], _ => []
  | weight :: weights, [] => (weight, Binary.zero) :: paired weights []
  | weight :: weights, score :: scores => (weight, score) :: paired weights scores

/-- The value of the sum. An empty sum is the negative zero, to which
nothing changes when it is added. -/
def evaluate (formula : Formula) (scores : List Double) : Double :=
  (paired formula.weights scores).foldl (fun sum p => sum.add (p.1.mul p.2)) Binary.zero.neg

end Formula

end SearchQuery
