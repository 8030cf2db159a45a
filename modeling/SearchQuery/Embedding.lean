import SearchQuery.Error

/-!
# Query vectors

An embedding is a query vector bound to the field that is searched with
it. It is checked and written into its payload when it is made. A later
change of element type starts from the elements themselves, never from an
earlier payload, so no element is rounded twice.
-/

namespace SearchQuery

/-- A query vector of a field, with its payload. -/
structure Embedding where
  /-- The elements as they were given. -/
  values : List Single
  /-- The vector field that is searched. -/
  field : String
  /-- The type in which the index stores the elements. -/
  dtype : DataType
  /-- The weight of this vector's score among several. -/
  weight : Double
  /-- The elements in the bytes of their type. -/
  payload : List UInt8
deriving DecidableEq

namespace Embedding

/-- The weight of a vector that was given none. -/
def defaultWeight : Double := Binary.ofInt 1

/-- The payload of elements that are not yet bound to a type. -/
def payloadOf (dtype : DataType) (values : List Single) : Except Invalid (List UInt8) :=
  match Payload.encode dtype values with
  | .ok payload => .ok payload
  | .error cause => .error (.vector (.payload cause))

/-- A vector of single-precision elements. The field has a name, there is
an element, and every element is finite. -/
def make (values : List Single) (field : String) : Except Invalid Embedding := do
  requireName "vector field" field
  if values.isEmpty then
    throw (.vector (.empty field))
  if let some position := values.findIdx? (!·.isFinite) then
    throw (.vector (.notFinite position field))
  let payload ← payloadOf .float32 values
  return { values, field, dtype := .float32, weight := defaultWeight, payload }

/-- The vector with its elements stored in another type. -/
def withType (dtype : DataType) (e : Embedding) : Except Invalid Embedding := do
  let payload ← payloadOf dtype e.values
  return { e with dtype, payload }

/-- The vector with a weight, which is a positive number. -/
def withWeight (weight : Double) (e : Embedding) : Except Invalid Embedding :=
  if weight.isFinite && weight.isPositive then .ok { e with weight }
  else .error (.outOfRange "vector weight" (.notPositiveNumber weight))

/-- How many elements the vector has. -/
def dimension (e : Embedding) : Nat := e.values.length

end Embedding

end SearchQuery
