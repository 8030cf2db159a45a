import SearchQuery.Decimal.Shortest
import SearchQuery.Payload.Bytes
import SearchQuery.Payload.DataType

/-!
# Vector payloads

The index compares vectors byte for byte, so the layout of a payload is
fixed: the elements in order, each in its type's bits, least byte first.
Narrowing to a smaller floating-point type rounds to nearest. An integer
type takes an element only if it is that integer exactly.
-/

namespace SearchQuery

/-- Why a payload cannot be written or read. -/
inductive CodecError where
  /-- The buffer does not fall into whole elements. -/
  | misaligned (length width : Nat)
  /-- The type has no such element. -/
  | unrepresentable (value : Single) (type : DataType)
deriving DecidableEq

/-- The wording of a payload error. -/
def CodecError.message : CodecError → String
  | misaligned length width =>
    "buffer of " ++ toString length ++ " bytes is not a multiple of " ++ toString width
  | unrepresentable value type =>
    "value " ++ value.display ++ " cannot be stored as " ++ type.name

namespace Payload

/-! ## Elements -/

/-- A number in the bytes of its format. -/
def floatBytes {f : Format} (x : Binary f) : List UInt8 := littleEndian f.byteWidth x.toBits

/-- A number as an integer between two bounds, if it is one. -/
def integerIn? (low high : Int) (x : Single) : Option Int :=
  if x.isFinite && x.toRat.den == 1 && low ≤ x.toRat.num && x.toRat.num ≤ high then
    some x.toRat.num
  else none

/-- The bytes of an element. -/
def encodeElement (type : DataType) (x : Single) : Except CodecError (List UInt8) :=
  match type with
  | .float32 => .ok (floatBytes x)
  | .float64 => .ok (floatBytes (x.convert : Double))
  | .float16 => .ok (floatBytes (x.convert : Binary Format.half))
  | .bfloat16 => .ok (floatBytes (x.convert : Binary Format.brain))
  | .int8 =>
    match integerIn? (-128) 127 x with
    | some n => .ok [UInt8.ofNat (n % 256).toNat]
    | none => .error (.unrepresentable x type)
  | .uint8 =>
    match integerIn? 0 255 x with
    | some n => .ok [UInt8.ofNat n.toNat]
    | none => .error (.unrepresentable x type)

/-- The element of a group of bytes. -/
def decodeElement (type : DataType) (bytes : List UInt8) : Single :=
  let bits := ofLittleEndian bytes
  match type with
  | .float32 => Binary.ofBits bits
  | .float64 => (Binary.ofBits bits : Double).convert
  | .float16 => (Binary.ofBits bits : Binary Format.half).convert
  | .bfloat16 => (Binary.ofBits bits : Binary Format.brain).convert
  | .int8 => Binary.ofInt (if bits < 128 then bits else (bits : Int) - 256)
  | .uint8 => Binary.ofInt bits

/-! ## Buffers -/

/-- The payload of a list of elements. The first element that its type
cannot hold is the error. -/
def encode (type : DataType) (values : List Single) : Except CodecError (List UInt8) := do
  let elements ← values.mapM (encodeElement type)
  return elements.flatten

/-- The elements of a payload. -/
def decode (type : DataType) (bytes : List UInt8) : Except CodecError (List Single) :=
  if bytes.length % type.byteWidth == 0 then
    .ok ((groups type.byteWidth type.byteWidth_pos bytes).map (decodeElement type))
  else .error (.misaligned bytes.length type.byteWidth)

end Payload

end SearchQuery
