import SearchQuery.Keyword

/-!
# Element types

The types in which an index stores the elements of a vector.
-/

namespace SearchQuery

/-- The storage type of a vector's elements. -/
inductive DataType where
  | bfloat16
  | float16
  | float32
  | float64
  | int8
  | uint8
deriving DecidableEq, Repr

namespace DataType

instance : Inhabited DataType := ⟨float32⟩

/-- The canonical name. -/
def name : DataType → String
  | bfloat16 => "BFLOAT16"
  | float16 => "FLOAT16"
  | float32 => "FLOAT32"
  | float64 => "FLOAT64"
  | int8 => "INT8"
  | uint8 => "UINT8"

/-- How many bytes an element takes. -/
def byteWidth : DataType → Nat
  | float64 => 8
  | float32 => 4
  | bfloat16 | float16 => 2
  | int8 | uint8 => 1

theorem byteWidth_pos (t : DataType) : 0 < t.byteWidth := by
  cases t <;> decide

instance : Keyword DataType where
  kind := "vector data type"
  all := [bfloat16, float16, float32, float64, int8, uint8]
  name := name

end DataType

end SearchQuery
