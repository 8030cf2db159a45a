import SearchQuery.Proofs.Binary.Integer
import SearchQuery.Proofs.Payload.Layout

/-!
# What a payload keeps

A type does not have every element: an integer type has the integers of its
range and nothing else, and a floating-point type has the nearest number in
place of one that it does not have. So what can be said of a payload that is
read again depends on the type.

## What is proved

`isLossless`, for every type:

- writing fails for the first element that an integer type does not have,
  and never for a floating-point type (`encode_eq_error`); reading fails
  when the buffer does not fall into whole elements;
- integers come back as the same numbers, and elements in double precision
  as they were (`sameNumber_of_rereads`, `eq_of_rereads`);
- a buffer of any type that is not wider than the elements is what writing
  its elements gives (`encode_decode`): its elements are numbers of single
  precision, so they are widened without loss and narrowed back. Hence
  rounding happens once: writing what was read changes nothing.

A pattern that is not a number is left out of the last two, since a change
of format makes it quiet.
-/

namespace SearchQuery

/-- Two numbers of one value. The two zeros are the same number. -/
def Binary.SameNumber {f : Format} (x y : Binary f) : Prop :=
  x.isFinite = true ∧ y.isFinite = true ∧ x.toRat = y.toRat

namespace Payload

/-! ## The elements that a type has -/

/-- The number is an integer between two bounds. -/
def IsIntegerIn (low high : Int) (x : Single) : Prop :=
  x.isFinite = true ∧ ∃ n : Int, x.toRat = n ∧ low ≤ n ∧ n ≤ high

/-- The type has the element, or a number nearest to it. -/
def Holds : DataType → Single → Prop
  | .int8, x => IsIntegerIn (-128) 127 x
  | .uint8, x => IsIntegerIn 0 255 x
  | _, _ => True

/-- The bytes of an element are a pattern that is not a number. -/
def IsNaNPattern : DataType → List UInt8 → Prop
  | .float64, bytes => (Binary.ofBits (ofLittleEndian bytes) : Double).isNaN = true
  | .float32, bytes => (Binary.ofBits (ofLittleEndian bytes) : Single).isNaN = true
  | .float16, bytes => (Binary.ofBits (ofLittleEndian bytes) : Binary Format.half).isNaN = true
  | .bfloat16, bytes => (Binary.ofBits (ofLittleEndian bytes) : Binary Format.brain).isNaN = true
  | .int8, _ | .uint8, _ => False

variable {type : DataType} {low high : Int} {x y : Single}

/-- An integer is taken for what it is, inside its bounds. -/
theorem integerIn?_eq_some {n : Int} :
    integerIn? low high x = some n ↔ x.isFinite = true ∧ x.toRat = n ∧ low ≤ n ∧ n ≤ high := by
  unfold integerIn?
  constructor
  · intro h
    split at h
    · next hall =>
      simp only [Bool.and_eq_true, beq_iff_eq, decide_eq_true_eq] at hall
      obtain ⟨⟨⟨hfinite, hden⟩, hlow⟩, hhigh⟩ := hall
      cases h
      exact ⟨hfinite, (Rat.coe_int_num_of_den_eq_one hden).symm, hlow, hhigh⟩
    · cases h
  · rintro ⟨hfinite, hvalue, hlow, hhigh⟩
    have hall : (x.isFinite && x.toRat.den == 1 && decide (low ≤ x.toRat.num)
        && decide (x.toRat.num ≤ high)) = true := by
      rw [hvalue, Rat.den_intCast, Rat.num_intCast, hfinite, decide_eq_true hlow,
        decide_eq_true hhigh]
      rfl
    rw [if_pos hall, hvalue, Rat.num_intCast]

/-- Whatever else is refused: a fraction, an infinity, and what lies past a
bound. -/
theorem integerIn?_eq_none : integerIn? low high x = none ↔ ¬IsIntegerIn low high x := by
  rw [Option.eq_none_iff_forall_ne_some]
  constructor
  · rintro h ⟨hfinite, n, hvalue, hbounds⟩
    exact h n (integerIn?_eq_some.mpr ⟨hfinite, hvalue, hbounds⟩)
  · intro h n hn
    obtain ⟨hfinite, hvalue, hbounds⟩ := integerIn?_eq_some.mp hn
    exact h ⟨hfinite, n, hvalue, hbounds⟩

/-- An element is refused when its type does not have it, and is named with the
type. -/
theorem encodeElement_eq_error {cause : CodecError} :
    encodeElement type x = .error cause ↔ ¬Holds type x ∧ cause = .unrepresentable x type := by
  cases type with
  | float32 | float64 | float16 | bfloat16 =>
    constructor
    · intro h
      cases h
    · exact fun h => absurd trivial h.1
  | int8 | uint8 =>
    rw [encodeElement, Holds, ← integerIn?_eq_none]
    split
    · next n hn =>
      constructor
      · intro h
        cases h
      · intro h
        rw [hn] at h
        cases h.1
    · next hn =>
      constructor
      · intro h
        cases h
        exact ⟨hn, rfl⟩
      · rintro ⟨-, rfl⟩
        rfl

/-- An element is written when its type has it. -/
theorem exists_encodeElement_eq_ok :
    (∃ element, encodeElement type x = .ok element) ↔ Holds type x := by
  constructor
  · rintro ⟨element, h⟩
    by_contra hnot
    have herror := encodeElement_eq_error.mpr ⟨hnot, rfl⟩
    rw [h] at herror
    cases herror
  · intro hholds
    cases h : encodeElement type x with
    | ok element => exact ⟨element, rfl⟩
    | error cause => exact absurd hholds (encodeElement_eq_error.mp h).1

/-! ## Integers -/

/-- A small integer is found where its bounds allow it. -/
theorem integerIn?_ofInt {n : Int} (hlow : low ≤ n) (hhigh : n ≤ high) (hn : n.natAbs ≤ 255) :
    integerIn? low high (Binary.ofInt n) = some n := by
  have hfits : n.natAbs < 2 * Format.single.fractions := lt_of_le_of_lt hn (by decide)
  obtain ⟨hfinite, hvalue⟩ := Binary.toRat_ofInt Format.single_holdsIntegers hfits
  exact integerIn?_eq_some.mpr ⟨hfinite, hvalue, hlow, hhigh⟩

/-- An integer that was taken from a number is that number again. -/
theorem sameNumber_ofInt {n : Int} (h : integerIn? low high x = some n) (hn : n.natAbs ≤ 255) :
    (Binary.ofInt n : Single).SameNumber x := by
  have hfits : n.natAbs < 2 * Format.single.fractions := lt_of_le_of_lt hn (by decide)
  obtain ⟨hfinite, hvalue⟩ := Binary.toRat_ofInt Format.single_holdsIntegers hfits
  obtain ⟨hfinite', hvalue', -⟩ := integerIn?_eq_some.mp h
  exact ⟨hfinite, hfinite', hvalue.trans hvalue'.symm⟩

/-- The integer of a byte whose highest bit is the sign. -/
def signedByte (byte : UInt8) : Int :=
  if byte.toNat < 128 then byte.toNat else (byte.toNat : Int) - 256

/-- A byte with a sign lies between the bounds of its type. -/
theorem signedByte_bounds (byte : UInt8) : -128 ≤ signedByte byte ∧ signedByte byte ≤ 127 := by
  have hbyte := byte.toNat_lt
  unfold signedByte
  split <;> omega

/-- An integer between the bounds is found again from its byte. -/
theorem signedByte_ofNat {n : Int} (hlow : -128 ≤ n) (hhigh : n ≤ 127) :
    signedByte (UInt8.ofNat (n % 256).toNat) = n := by
  unfold signedByte
  rw [UInt8.toNat_ofNat']
  split <;> omega

/-- A byte is found again from the integer that it stands for. -/
theorem ofNat_signedByte (byte : UInt8) : UInt8.ofNat (signedByte byte % 256).toNat = byte := by
  have hbyte := byte.toNat_lt
  apply UInt8.toNat_inj.mp
  rw [UInt8.toNat_ofNat']
  unfold signedByte
  split <;> omega

/-- An integer with a sign is written as the byte of its remainder. -/
theorem encodeElement_int8_eq_ok {element : List UInt8} :
    encodeElement .int8 x = .ok element ↔
      ∃ n, integerIn? (-128) 127 x = some n ∧ [UInt8.ofNat (n % 256).toNat] = element := by
  rw [encodeElement]
  cases integerIn? (-128) 127 x <;> simp

/-- An integer without a sign is written as the byte that it is. -/
theorem encodeElement_uint8_eq_ok {element : List UInt8} :
    encodeElement .uint8 x = .ok element ↔
      ∃ n, integerIn? 0 255 x = some n ∧ [UInt8.ofNat n.toNat] = element := by
  rw [encodeElement]
  cases integerIn? 0 255 x <;> simp

theorem decodeElement_int8 (byte : UInt8) :
    decodeElement .int8 [byte] = Binary.ofInt (signedByte byte) := rfl

theorem decodeElement_uint8 (byte : UInt8) :
    decodeElement .uint8 [byte] = Binary.ofInt byte.toNat := rfl

/-! ## Elements that are written and read -/

/-- Writing the first element and reading it gives the second. -/
def Rereads (type : DataType) (x y : Single) : Prop :=
  ∃ element, encodeElement type x = .ok element ∧ decodeElement type element = y

/-- An integer type reads the number that was written, with one zero for
both. -/
theorem sameNumber_of_rereads (htype : type = .int8 ∨ type = .uint8) (h : Rereads type x y) :
    y.SameNumber x := by
  obtain ⟨element, hwrite, rfl⟩ := h
  obtain rfl | rfl := htype
  · obtain ⟨n, hn, rfl⟩ := encodeElement_int8_eq_ok.mp hwrite
    obtain ⟨-, -, hlow, hhigh⟩ := integerIn?_eq_some.mp hn
    rw [decodeElement_int8, signedByte_ofNat hlow hhigh]
    exact sameNumber_ofInt hn (by omega)
  · obtain ⟨n, hn, rfl⟩ := encodeElement_uint8_eq_ok.mp hwrite
    obtain ⟨-, -, hlow, hhigh⟩ := integerIn?_eq_some.mp hn
    have hbyte : ((UInt8.ofNat n.toNat).toNat : Int) = n := by
      rw [UInt8.toNat_ofNat']
      omega
    rw [decodeElement_uint8, hbyte]
    exact sameNumber_ofInt hn (by omega)

/-- Double precision reads the very number that was written. -/
theorem eq_of_rereads (hx : x.isNaN = false) (h : Rereads .float64 x y) : y = x := by
  obtain ⟨element, hwrite, rfl⟩ := h
  cases hwrite
  rw [decodeElement, ofBits_floatBytes Format.fillsBytes_double]
  exact Binary.convert_convert_of_not_isNaN Format.single_widens_double hx

/-- An element of a format that single precision widens is written back to
its bytes. -/
theorem floatBytes_convert_convert {g : Format} (hfills : g.FillsBytes) (h : g.Widens .single)
    {element : List UInt8} (hlength : element.length = g.byteWidth)
    (hnan : (Binary.ofBits (ofLittleEndian element) : Binary g).isNaN = false) :
    floatBytes (((Binary.ofBits (ofLittleEndian element) : Binary g).convert : Single).convert
      : Binary g) = element := by
  rw [Binary.convert_convert_of_not_isNaN h hnan, floatBytes_ofBits hfills hlength]

/-- The type has no element that single precision does not have. -/
def IsNarrow (type : DataType) : Prop :=
  type = .float16 ∨ type = .bfloat16 ∨ type = .int8 ∨ type = .uint8

/-- An element of a narrow type that is a number is written back to its
bytes. -/
theorem encodeElement_decodeElement (htype : IsNarrow type) {element : List UInt8}
    (hlength : element.length = type.byteWidth) (hnan : ¬IsNaNPattern type element) :
    encodeElement type (decodeElement type element) = .ok element := by
  obtain rfl | rfl | rfl | rfl := htype
  · exact congrArg Except.ok (floatBytes_convert_convert Format.fillsBytes_half
      Format.half_widens_single hlength (Bool.eq_false_iff.mpr hnan))
  · exact congrArg Except.ok (floatBytes_convert_convert Format.fillsBytes_brain
      Format.brain_widens_single hlength (Bool.eq_false_iff.mpr hnan))
  · obtain ⟨byte, rfl⟩ := List.length_eq_one_iff.mp hlength
    obtain ⟨hlow, hhigh⟩ := signedByte_bounds byte
    rw [decodeElement_int8, encodeElement_int8_eq_ok]
    exact ⟨_, integerIn?_ofInt hlow hhigh (by omega), congrArg (fun b => [b]) (ofNat_signedByte byte)⟩
  · obtain ⟨byte, rfl⟩ := List.length_eq_one_iff.mp hlength
    have hbyte := byte.toNat_lt
    rw [decodeElement_uint8, encodeElement_uint8_eq_ok]
    refine ⟨_, integerIn?_ofInt (by omega) (by omega) (by omega), ?_⟩
    rw [Int.toNat_natCast, UInt8.ofNat_toNat]

/-- What is a number is written to the pattern of a number. -/
theorem not_isNaNPattern_of_encodeElement {element : List UInt8} (hx : x.isNaN = false)
    (h : encodeElement type x = .ok element) : ¬IsNaNPattern type element := by
  cases type with
  | int8 | uint8 => exact not_false
  | float32 =>
    cases h
    rw [IsNaNPattern, ofBits_floatBytes Format.fillsBytes_single, hx]
    exact Bool.false_ne_true
  | float64 =>
    cases h
    rw [IsNaNPattern, ofBits_floatBytes Format.fillsBytes_double, Binary.isNaN_convert hx]
    exact Bool.false_ne_true
  | float16 =>
    cases h
    rw [IsNaNPattern, ofBits_floatBytes Format.fillsBytes_half, Binary.isNaN_convert hx]
    exact Bool.false_ne_true
  | bfloat16 =>
    cases h
    rw [IsNaNPattern, ofBits_floatBytes Format.fillsBytes_brain, Binary.isNaN_convert hx]
    exact Bool.false_ne_true

/-! ## Payloads -/

variable {values more : List Single} {bytes : List UInt8}

/-- No element of the buffer is a pattern that is not a number. -/
def HoldsNumbers (type : DataType) (bytes : List UInt8) : Prop :=
  ∀ group ∈ groups type.byteWidth type.byteWidth_pos bytes, ¬IsNaNPattern type group

/-- Elements are refused for the first that the type does not have. -/
theorem encode_eq_error {cause : CodecError} :
    encode type values = .error cause ↔ ∃ before x after, values = before ++ x :: after ∧
      (∀ y ∈ before, Holds type y) ∧ ¬Holds type x ∧ cause = .unrepresentable x type := by
  rw [encode, bind_pure_eq_error, mapM_eq_error]
  simp only [exists_encodeElement_eq_ok, encodeElement_eq_error]

/-- Elements are written when the type has every one. -/
theorem exists_encode_eq_ok :
    (∃ bytes, encode type values = .ok bytes) ↔ ∀ x ∈ values, Holds type x := by
  simp only [← exists_encodeElement_eq_ok, ← exists_mapM_eq_ok, encode, bind_eq_ok, pure_eq_ok]
  constructor
  · rintro ⟨bytes, elements, helements, -⟩
    exact ⟨elements, helements⟩
  · rintro ⟨elements, helements⟩
    exact ⟨elements.flatten, elements, helements, rfl⟩

/-- Elements are written one behind the other, so a payload can be put
together. -/
theorem encode_append (type : DataType) (values more : List Single) :
    encode type (values ++ more) = do
      let front ← encode type values
      let back ← encode type more
      return front ++ back := by
  simp only [encode, List.mapM_append, bind_assoc, pure_bind, List.flatten_append]

/-- What was written is read element by element. -/
theorem decode_of_encode (h : encode type values = .ok bytes) :
    ∃ decoded, decode type bytes = .ok decoded ∧ List.Forall₂ (Rereads type) values decoded := by
  obtain ⟨elements, helements, rfl⟩ := encode_eq_ok.mp h
  refine ⟨_, decode_flatten (length_of_forall₂ helements), ?_⟩
  rw [List.forall₂_map_right_iff]
  exact helements.imp fun x element helement => ⟨element, helement, rfl⟩

/-- Bytes of numbers of a narrow type are read as elements that are written to
the same bytes. -/
theorem encode_decode (htype : IsNarrow type) (h : type.byteWidth ∣ bytes.length)
    (hnumbers : HoldsNumbers type bytes) :
    ∃ decoded, decode type bytes = .ok decoded ∧ encode type decoded = .ok bytes := by
  refine ⟨_, decode_of_dvd h,
    encode_eq_ok.mpr ⟨_, ?_, flatten_groups type.byteWidth_pos bytes⟩⟩
  rw [List.forall₂_map_left_iff, List.forall₂_same]
  intro group hgroup
  exact encodeElement_decodeElement htype (length_of_mem_groups _ h group hgroup)
    (hnumbers group hgroup)

/-- Numbers are written as patterns of numbers, so what was written can be read
and written again. -/
theorem holdsNumbers_of_encode (hvalues : ∀ x ∈ values, x.isNaN = false)
    (h : encode type values = .ok bytes) : HoldsNumbers type bytes := by
  obtain ⟨elements, helements, rfl⟩ := encode_eq_ok.mp h
  rw [HoldsNumbers, groups_flatten _ (length_of_forall₂ helements)]
  refine forall_mem_of_forall₂ helements ?_
  intro x hx element helement
  exact not_isNaNPattern_of_encodeElement (hvalues x hx) helement

/-! ## What is kept -/

/-- What the payloads of a type can be relied on for. -/
structure IsLossless (type : DataType) : Prop where
  /-- Elements that the type has are written. -/
  exists_encode : ∀ values, (∃ bytes, encode type values = .ok bytes) ↔ ∀ x ∈ values, Holds type x
  /-- The first element that it does not have is the error. -/
  encode_eq_error : ∀ values cause, encode type values = .error cause ↔
    ∃ before x after, values = before ++ x :: after ∧ (∀ y ∈ before, Holds type y) ∧
      ¬Holds type x ∧ cause = .unrepresentable x type
  length_encode : ∀ values bytes, encode type values = .ok bytes →
    bytes.length = values.length * type.byteWidth
  encode_append : ∀ values more, encode type (values ++ more) = do
    let front ← encode type values
    let back ← encode type more
    return front ++ back
  /-- A buffer is read unless its last element is cut off. -/
  decode_eq_error : ∀ bytes cause, decode type bytes = .error cause ↔
    ¬type.byteWidth ∣ bytes.length ∧ cause = .misaligned bytes.length type.byteWidth
  /-- What was written is read, as exactly as the type allows. -/
  decode_encode : ∀ values bytes, encode type values = .ok bytes →
    ∃ decoded, decode type bytes = .ok decoded ∧ decoded.length = values.length ∧
      (type = .int8 ∨ type = .uint8 → List.Forall₂ Binary.SameNumber decoded values) ∧
      (type = .float64 → (∀ x ∈ values, x.isNaN = false) → decoded = values) ∧
      (type = .float16 ∨ type = .bfloat16 → (∀ x ∈ values, x.isNaN = false) →
        encode type decoded = .ok bytes)
  /-- What is read of a narrow type is written back. -/
  encode_decode : IsNarrow type → ∀ bytes, type.byteWidth ∣ bytes.length →
    HoldsNumbers type bytes → ∃ decoded, decode type bytes = .ok decoded ∧
      encode type decoded = .ok bytes

/-- Numbers in double precision come back as they were. -/
theorem eq_of_forall₂_rereads {decoded : List Single} (hvalues : ∀ x ∈ values, x.isNaN = false)
    (h : List.Forall₂ (Rereads .float64) values decoded) : decoded = values := by
  induction h with
  | nil => rfl
  | cons hx _ ih =>
    obtain ⟨hfirst, hrest⟩ := List.forall_mem_cons.mp hvalues
    rw [eq_of_rereads hfirst hx, ih hrest]

/-- **Payloads keep what their type can hold.** -/
theorem isLossless (type : DataType) : IsLossless type where
  exists_encode _ := exists_encode_eq_ok
  encode_eq_error _ _ := encode_eq_error
  length_encode _ _ := length_encode
  encode_append := encode_append type
  decode_eq_error _ _ := decode_eq_error
  decode_encode values bytes h := by
    obtain ⟨decoded, hdecoded, hrereads⟩ := decode_of_encode h
    refine ⟨decoded, hdecoded, hrereads.length_eq.symm, ?_, ?_, ?_⟩
    · intro htype
      exact (hrereads.imp fun _ _ => sameNumber_of_rereads htype).flip
    · rintro rfl hvalues
      exact eq_of_forall₂_rereads hvalues hrereads
    · intro htype hvalues
      have hnarrow : IsNarrow type := htype.imp_right .inl
      have hdvd : type.byteWidth ∣ bytes.length := ⟨_, (length_encode h).trans (Nat.mul_comm _ _)⟩
      obtain ⟨again, hagain, hencode⟩ :=
        encode_decode hnarrow hdvd (holdsNumbers_of_encode hvalues h)
      cases hdecoded.symm.trans hagain
      exact hencode
  encode_decode htype _ := encode_decode htype

end Payload

end SearchQuery
