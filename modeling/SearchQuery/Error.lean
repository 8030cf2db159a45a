import SearchQuery.Decimal.Literal
import SearchQuery.Payload.Codec
import SearchQuery.Text.Blank
import SearchQuery.Text.Quoted

/-!
# Errors

A setting that no query may have is refused with a cause. The causes are
constructors that carry what was refused; their wording is in `message`
and nowhere else.

- `Fault`: why a number is out of its range.
- `VectorFault`: why a vector is refused.
- `Invalid`: every refusal of a setting.
- `QueryError`: what building a query can answer.
-/

namespace SearchQuery

/-- Why a number is out of its range. -/
inductive Fault where
  /-- A count or size of zero. -/
  | notPositive
  /-- A dialect of zero. -/
  | belowOne
  /-- A batch size without the policy that has batches. -/
  | withoutBatches
  /-- A vector weight that is not a positive number. -/
  | notPositiveNumber (got : Double)
  /-- A distance that is not a number or is below zero. -/
  | notNonNegative (got : Double)
  /-- A normalized distance above one. -/
  | aboveNormalized (got : Double)
  /-- A blend that is not between zero and one. -/
  | outsideUnit (got : Double)
  /-- A field weight that is not a positive number. -/
  | fieldWeight (field : String) (got : Double)
  /-- A bound that nothing compares with. -/
  | notComparable
  /-- The ends of a range the wrong way round. -/
  | minAboveMax (min max : Double)
  /-- A coordinate beyond the limit on either side. -/
  | beyondLimit (got limit : Double)
  /-- A radius that is not a positive number. -/
  | notDistance (got : Double)
  /-- The corners of a box the wrong way round. -/
  | cornersSwapped
deriving DecidableEq

/-- The wording of a fault. -/
def Fault.message : Fault → String
  | notPositive => "must be positive"
  | belowOne => "must be at least 1"
  | withoutBatches => "only valid with the BATCHES hybrid policy"
  | notPositiveNumber got => "must be a positive number, got " ++ got.display
  | notNonNegative got => "must be a non-negative number, got " ++ got.display
  | aboveNormalized got => "normalized distance must be at most 1, got " ++ got.display
  | outsideUnit got => "must be within [0, 1], got " ++ got.display
  | fieldWeight field got =>
    "weight of " ++ Text.quoted field ++ " must be positive, got " ++ got.display
  | notComparable => "NaN is not comparable"
  | minAboveMax min max => "min " ++ Double.literal min ++ " exceeds max " ++ Double.literal max
  | beyondLimit got limit =>
    got.display ++ " outside [-" ++ limit.display ++ ", " ++ limit.display ++ "]"
  | notDistance got => got.display ++ " is not a positive distance"
  | cornersSwapped => "minimum corner must not exceed maximum corner"

/-- Why a vector is refused. -/
inductive VectorFault where
  /-- It has no elements. -/
  | empty (field : String)
  /-- An element is infinite or not a number. -/
  | notFinite (position : Nat) (field : String)
  /-- Its element type cannot hold it. -/
  | payload (cause : CodecError)
  /-- A query over several vectors was given none. -/
  | noVectors
deriving DecidableEq

/-- The wording of a vector fault. -/
def VectorFault.message : VectorFault → String
  | empty field => "vector for field " ++ Text.quoted field ++ " has no elements"
  | notFinite position field =>
    "element " ++ toString position ++ " of vector for field " ++ Text.quoted field
      ++ " is not finite"
  | payload cause => cause.message
  | noVectors => "multi-vector query needs at least one vector"

/-- A setting that is refused. -/
inductive Invalid where
  /-- A name that is blank. -/
  | blankField (role : String)
  /-- A value that is needed and absent or blank. -/
  | missingValue (what : String)
  /-- A conjunction or disjunction of nothing. -/
  | emptyComposite (operator : String)
  /-- A word that an enumeration does not have. -/
  | unknownKeyword (kind value : String)
  /-- A number out of its range. -/
  | outOfRange (setting : String) (fault : Fault)
  /-- A vector that is refused. -/
  | vector (fault : VectorFault)
  /-- A text without a word to search for. -/
  | noTokens (text : String)
deriving DecidableEq

/-- The wording of a refusal. -/
def Invalid.message : Invalid → String
  | blankField role => role ++ " must not be blank"
  | missingValue what => "missing required value: " ++ what
  | emptyComposite operator => operator ++ " requires at least one operand"
  | unknownKeyword kind value => "invalid " ++ kind ++ ": " ++ Text.quoted value
  | outOfRange setting fault => setting ++ " out of range: " ++ fault.message
  | vector fault => "invalid vector: " ++ fault.message
  | noTokens text => "no searchable tokens left in " ++ Text.quoted text

/-- Why a query or a payload is refused. -/
inductive QueryError where
  | validation (cause : Invalid)
  | codec (cause : CodecError)
deriving DecidableEq

namespace QueryError

/-- The wording of the cause alone. -/
def cause : QueryError → String
  | validation cause => cause.message
  | codec cause => cause.message

/-- The wording with the kind of the error before it. -/
def message : QueryError → String
  | validation cause => "validation error: " ++ cause.message
  | codec cause => "codec error: " ++ cause.message

end QueryError

/-- The value of a name, or its refusal. -/
def Keyword.read {α : Type} [Keyword α] (s : String) : Except Invalid α :=
  match Keyword.find? s with
  | some a => .ok a
  | none => .error (.unknownKeyword (Keyword.kind α) s)

/-- A name that is not blank. -/
def requireName (role name : String) : Except Invalid Unit :=
  if Text.isBlank name then .error (.blankField role) else .ok ()

end SearchQuery
