import Mathlib.Algebra.Group.Nat.Defs
import SearchQuery.Payload.Codec
import SearchQuery.Proofs.Accepted

/-!
# The layout of a payload

A payload is taken apart in three steps, and each can be undone: the buffer
falls into groups of the width of its type (`groups_flatten`,
`flatten_groups`), a group is a number with its least byte first
(`ofLittleEndian_littleEndian`, `littleEndian_ofLittleEndian`), and that
number is the pattern of all fields of an element (`ofBits_toBits`,
`toBits_ofBits`).

## What is proved

`decode_encode_and_encode_decode_float32` — elements of single precision
are stored bit by bit: every list of elements is read back as it was, and
every buffer of whole elements is what writing its elements gives. A
pattern that is not a number is a pattern like any other here.
-/

namespace SearchQuery

/-! ## Patterns -/

namespace Format

/-- A number of the format fills whole bytes. -/
def FillsBytes (f : Format) : Prop := 2 * f.ordinals = 256 ^ f.byteWidth

/-- Eight bytes hold a double, with none of their bits to spare. -/
theorem fillsBytes_double : double.FillsBytes := by
  unfold FillsBytes
  decide

/-- Four bytes hold a single. -/
theorem fillsBytes_single : single.FillsBytes := by
  unfold FillsBytes
  decide

/-- Two bytes hold a half. -/
theorem fillsBytes_half : half.FillsBytes := by
  unfold FillsBytes
  decide

/-- Two bytes hold a brain float as well, which divides its bits in another
way. -/
theorem fillsBytes_brain : brain.FillsBytes := by
  unfold FillsBytes
  decide

end Format

namespace Binary

variable {f : Format}

/-- A pattern has one bit more than the ordinals need: the sign. -/
theorem toBits_lt (x : Binary f) : x.toBits < 2 * f.ordinals := by
  have hlt := x.ordinal_lt
  unfold toBits
  split
  · omega
  · omega

/-- A number is found again from its pattern. -/
theorem ofBits_toBits (x : Binary f) : ofBits x.toBits = x := by
  have hlt := x.ordinal_lt
  have hpos : 0 < f.ordinals := by omega
  ext
  · cases hsign : x.negative with
    | false => simp [ofBits, toBits, hsign, Nat.div_eq_of_lt hlt]
    | true => simp [ofBits, toBits, hsign, Nat.add_div_left _ hpos, Nat.div_eq_of_lt hlt]
  · cases hsign : x.negative with
    | false => simp [ofBits, toBits, hsign, Nat.mod_eq_of_lt hlt]
    | true => simp [ofBits, toBits, hsign, Nat.mod_eq_of_lt hlt]

/-- Every pattern of that many bits is one of a number. -/
theorem toBits_ofBits {n : Nat} (h : n < 2 * f.ordinals) : (ofBits n : Binary f).toBits = n := by
  have hsplit : f.ordinals * (n / f.ordinals) + n % f.ordinals = n := Nat.div_add_mod n f.ordinals
  have hsign : n / f.ordinals < 2 := Nat.div_lt_of_lt_mul (by rwa [Nat.mul_comm])
  have hnegative : (ofBits n : Binary f).negative = (n / f.ordinals % 2 == 1) := rfl
  have hordinal : (ofBits n : Binary f).ordinal = n % f.ordinals := rfl
  rw [toBits, hordinal, hnegative]
  obtain hzero | hone := Nat.le_one_iff_eq_zero_or_eq_one.mp (Nat.lt_succ_iff.mp hsign)
  · rw [hzero, Nat.mul_zero] at hsplit
    rw [hzero]
    exact hsplit
  · rw [hone, Nat.mul_one] at hsplit
    rw [hone]
    exact hsplit

end Binary

namespace Payload

/-! ## Bytes of a number -/

/-- As many bytes are written as were asked for, whatever the number is. -/
theorem length_littleEndian (width n : Nat) : (littleEndian width n).length = width := by
  induction width generalizing n with
  | zero => rfl
  | succ width ih => rw [littleEndian, List.length_cons, ih]

/-- The byte of a place is the number without the bytes below it. -/
theorem getElem?_littleEndian {width place : Nat} (h : place < width) (n : Nat) :
    (littleEndian width n)[place]? = some (UInt8.ofNat (n >>> (8 * place))) := by
  induction width generalizing n place with
  | zero => omega
  | succ width ih =>
    cases place with
    | zero => rfl
    | succ place =>
      have hshift : n / 256 = n >>> 8 := (Nat.shiftRight_eq_div_pow n 8).symm
      rw [littleEndian, List.getElem?_cons_succ, ih (by omega), hshift, ← Nat.shiftRight_add,
        Nat.mul_succ, Nat.add_comm]

/-- A number is found again from its bytes, if it fits into them. -/
theorem ofLittleEndian_littleEndian {width n : Nat} (h : n < 256 ^ width) :
    ofLittleEndian (littleEndian width n) = n := by
  induction width generalizing n with
  | zero =>
    have hzero : n = 0 := by simpa using h
    exact hzero.symm
  | succ width ih =>
    have hrest : n / 256 < 256 ^ width := Nat.div_lt_of_lt_mul (by rwa [← Nat.pow_succ'])
    have hbyte : (UInt8.ofNat n).toNat = n % 256 := UInt8.toNat_ofNat'
    rw [littleEndian, ofLittleEndian, ih hrest, hbyte, Nat.mod_add_div]

/-- Bytes say no number that does not fit into them. -/
theorem ofLittleEndian_lt (bytes : List UInt8) : ofLittleEndian bytes < 256 ^ bytes.length := by
  induction bytes with
  | nil => exact Nat.one_pos
  | cons byte bytes ih =>
    have hbyte := byte.toNat_lt
    rw [ofLittleEndian, List.length_cons, Nat.pow_succ]
    omega

/-- Bytes are found again from the number that they say. -/
theorem littleEndian_ofLittleEndian (bytes : List UInt8) :
    littleEndian bytes.length (ofLittleEndian bytes) = bytes := by
  induction bytes with
  | nil => rfl
  | cons byte bytes ih =>
    have hbyte := byte.toNat_lt
    have hlow : UInt8.ofNat (byte.toNat + 256 * ofLittleEndian bytes) = byte := by
      apply UInt8.toNat_inj.mp
      rw [UInt8.toNat_ofNat']
      omega
    have hrest : (byte.toNat + 256 * ofLittleEndian bytes) / 256 = ofLittleEndian bytes := by
      omega
    rw [List.length_cons, ofLittleEndian, littleEndian, hlow, hrest, ih]

/-! ## Groups -/

section Groups

variable {α : Type} {width : Nat} (width_pos : 0 < width)

/-- Cut into groups and joined again, a list is what it was. -/
theorem flatten_groups (xs : List α) : (groups width width_pos xs).flatten = xs := by
  induction xs using groups.induct width width_pos with
  | case1 => rw [groups, List.flatten_nil]
  | case2 x xs ih => rw [groups, List.flatten_cons, ih, List.take_append_drop]

/-- A buffer of whole groups has no short one. -/
theorem length_of_mem_groups {xs : List α} (h : width ∣ xs.length) :
    ∀ group ∈ groups width width_pos xs, group.length = width := by
  induction xs using groups.induct width width_pos with
  | case1 =>
    intro group hgroup
    rw [groups] at hgroup
    cases hgroup
  | case2 x xs ih =>
    have hle : width ≤ (x :: xs).length := Nat.le_of_dvd (Nat.succ_pos _) h
    have hrest : width ∣ ((x :: xs).drop width).length := by
      rw [List.length_drop]
      exact Nat.dvd_sub h (Nat.dvd_refl width)
    rw [groups, List.forall_mem_cons]
    exact ⟨List.length_take_of_le hle, ih hrest⟩

/-- Parts of one width are the groups of the buffer that they make up. -/
theorem groups_flatten {parts : List (List α)} (h : ∀ part ∈ parts, part.length = width) :
    groups width width_pos parts.flatten = parts := by
  induction parts with
  | nil => rw [List.flatten_nil, groups]
  | cons part parts ih =>
    obtain ⟨hpart, hparts⟩ := List.forall_mem_cons.mp h
    obtain ⟨x, xs, rfl⟩ : ∃ x xs, part = x :: xs :=
      List.exists_cons_of_length_pos (hpart ▸ width_pos)
    have hsplit : (x :: xs) ++ parts.flatten = x :: (xs ++ parts.flatten) := rfl
    rw [List.flatten_cons, hsplit, groups, ← hsplit, List.take_left' hpart, List.drop_left' hpart,
      ih hparts]

omit width_pos in
/-- Groups of one width are together as long as they are many times the
width. -/
theorem length_flatten_of_forall {parts : List (List α)} (h : ∀ part ∈ parts, part.length = width) :
    parts.flatten.length = parts.length * width := by
  have hlengths : parts.map List.length = List.replicate parts.length width := by
    rw [List.eq_replicate_iff, List.length_map, List.forall_mem_map]
    exact ⟨rfl, h⟩
  rw [List.length_flatten, hlengths, List.sum_replicate_nat]

omit width_pos in
/-- An element of a part stands behind all parts before it. -/
theorem getElem?_flatten {parts : List (List α)} (h : ∀ part ∈ parts, part.length = width)
    {i : Nat} {part : List α} (hpart : parts[i]? = some part) {place : Nat} (hplace : place < width) :
    parts.flatten[width * i + place]? = part[place]? := by
  induction parts generalizing i with
  | nil => cases hpart
  | cons first parts ih =>
    obtain ⟨hfirst, hparts⟩ := List.forall_mem_cons.mp h
    cases i with
    | zero =>
      cases hpart
      rw [List.flatten_cons, Nat.mul_zero, Nat.zero_add,
        List.getElem?_append_left (by rw [hfirst]; exact hplace)]
    | succ i =>
      have hbehind : width * (i + 1) + place = first.length + (width * i + place) := by
        rw [hfirst, Nat.mul_succ]
        omega
      rw [List.flatten_cons, hbehind, List.getElem?_append_right (Nat.le_add_right _ _),
        Nat.add_sub_cancel_left]
      exact ih hparts hpart

end Groups

/-! ## Floating-point elements -/

section Floats

variable {f : Format}

/-- A number takes up the width of its format. -/
theorem length_floatBytes (x : Binary f) : (floatBytes x).length = f.byteWidth :=
  length_littleEndian _ _

/-- A number of a format that fills its bytes is found again from them. -/
theorem ofBits_floatBytes (h : f.FillsBytes) (x : Binary f) :
    Binary.ofBits (ofLittleEndian (floatBytes x)) = x := by
  have hlt : x.toBits < 256 ^ f.byteWidth := lt_of_lt_of_eq x.toBits_lt h
  rw [floatBytes, ofLittleEndian_littleEndian hlt, Binary.ofBits_toBits]

/-- As many bytes as a number takes are those of some number. -/
theorem floatBytes_ofBits (h : f.FillsBytes) {bytes : List UInt8}
    (hlength : bytes.length = f.byteWidth) :
    floatBytes (Binary.ofBits (ofLittleEndian bytes) : Binary f) = bytes := by
  have hlt : ofLittleEndian bytes < 2 * f.ordinals := by
    rw [h, ← hlength]
    exact ofLittleEndian_lt bytes
  rw [floatBytes, Binary.toBits_ofBits hlt, ← hlength, littleEndian_ofLittleEndian]

end Floats

/-! ## Elements of any type -/

variable {type : DataType}

/-- An element takes up the width of its type, whichever type that is. -/
theorem length_encodeElement {x : Single} {bytes : List UInt8}
    (h : encodeElement type x = .ok bytes) : bytes.length = type.byteWidth := by
  cases type with
  | float32 | float64 | float16 | bfloat16 =>
    cases h
    exact length_littleEndian _ _
  | int8 | uint8 =>
    rw [encodeElement] at h
    split at h
    · cases h
      rfl
    · cases h

/-! ## Buffers -/

/-- A payload is the elements that its values were written to, one behind
the other. -/
theorem encode_eq_ok {values : List Single} {bytes : List UInt8} :
    encode type values = .ok bytes ↔ ∃ elements,
      List.Forall₂ (fun x element => encodeElement type x = .ok element) values elements ∧
        elements.flatten = bytes := by
  simp only [encode, bind_eq_ok, pure_eq_ok, mapM_eq_ok]

theorem length_of_forall₂ {values : List Single} {elements : List (List UInt8)}
    (h : List.Forall₂ (fun x element => encodeElement type x = .ok element) values elements) :
    ∀ element ∈ elements, element.length = type.byteWidth :=
  forall_mem_of_forall₂ h fun _ _ _ => length_encodeElement

/-- A payload has the width of its type for each element. -/
theorem length_encode {values : List Single} {bytes : List UInt8}
    (h : encode type values = .ok bytes) : bytes.length = values.length * type.byteWidth := by
  obtain ⟨elements, helements, rfl⟩ := encode_eq_ok.mp h
  rw [length_flatten_of_forall (length_of_forall₂ helements), helements.length_eq]

/-- A buffer of whole elements is read group by group. -/
theorem decode_of_dvd {bytes : List UInt8} (h : type.byteWidth ∣ bytes.length) :
    decode type bytes =
      .ok ((groups type.byteWidth type.byteWidth_pos bytes).map (decodeElement type)) := by
  rw [decode, if_pos (by rw [beq_iff_eq]; exact Nat.mod_eq_zero_of_dvd h)]

/-- Bytes are refused for their number alone: it has to be a multiple of the
width. -/
theorem decode_eq_error {bytes : List UInt8} {cause : CodecError} :
    decode type bytes = .error cause ↔
      ¬type.byteWidth ∣ bytes.length ∧ cause = .misaligned bytes.length type.byteWidth := by
  rw [decode]
  split
  · next h =>
    have hdvd := Nat.dvd_of_mod_eq_zero (beq_iff_eq.mp h)
    constructor
    · intro h
      cases h
    · exact fun hnot => absurd hdvd hnot.1
  · next h =>
    have hnot : ¬type.byteWidth ∣ bytes.length :=
      fun hdvd => h (beq_iff_eq.mpr (Nat.mod_eq_zero_of_dvd hdvd))
    constructor
    · intro h
      cases h
      exact ⟨hnot, rfl⟩
    · rintro ⟨-, rfl⟩
      rfl

/-- What was written is read element by element. -/
theorem decode_flatten {elements : List (List UInt8)}
    (h : ∀ element ∈ elements, element.length = type.byteWidth) :
    decode type elements.flatten = .ok (elements.map (decodeElement type)) := by
  have hdvd : type.byteWidth ∣ elements.flatten.length := by
    rw [length_flatten_of_forall h]
    exact Nat.dvd_mul_left _ _
  rw [decode_of_dvd hdvd, groups_flatten _ h]

/-! ## Single precision -/

/-- Singles are written as they are, so none is refused. -/
theorem encode_float32 (values : List Single) :
    encode .float32 values = .ok (values.map floatBytes).flatten :=
  encode_eq_ok.mpr ⟨_, List.forall₂_map_right_iff.mpr (List.forall₂_same.mpr fun _ _ => rfl), rfl⟩

theorem length_of_mem_map_floatBytes {values : List Single} :
    ∀ element ∈ values.map floatBytes, element.length = DataType.float32.byteWidth := by
  simp only [List.forall_mem_map]
  exact fun x _ => length_floatBytes x

/-- Singles are read back bit by bit, the patterns that are no number among
them. -/
theorem decode_encode_float32 (values : List Single) :
    decode .float32 (values.map floatBytes).flatten = .ok values := by
  have hread : decodeElement .float32 ∘ floatBytes = id :=
    funext (ofBits_floatBytes Format.fillsBytes_single)
  rw [decode_flatten length_of_mem_map_floatBytes, List.map_map, hread, List.map_id]

/-- Bytes that are read as singles are written again as the same bytes. -/
theorem encode_decode_float32 {bytes : List UInt8} (h : 4 ∣ bytes.length) :
    ∃ values, decode .float32 bytes = .ok values ∧ encode .float32 values = .ok bytes := by
  refine ⟨_, decode_of_dvd h, ?_⟩
  have hwrite : ∀ group ∈ groups DataType.float32.byteWidth DataType.float32.byteWidth_pos bytes,
      (floatBytes ∘ decodeElement .float32) group = group := fun group hgroup =>
    floatBytes_ofBits Format.fillsBytes_single (length_of_mem_groups _ h group hgroup)
  rw [encode_float32, List.map_map, List.map_congr_left hwrite, List.map_id', flatten_groups]

/-- **Single precision is stored bit by bit.** Every list of elements has a
payload of four bytes for each, the element's pattern with its least byte
first, and is read back from it. Every buffer whose length is a multiple of
four is the payload of the elements that are read from it, and no other
buffer is read. -/
theorem decode_encode_and_encode_decode_float32 :
    (∀ values : List Single, ∃ bytes, encode .float32 values = .ok bytes ∧
      bytes.length = 4 * values.length ∧
      (∀ (i : Nat) (x : Single), values[i]? = some x → ∀ place < 4,
        bytes[4 * i + place]? = some (UInt8.ofNat (x.toBits >>> (8 * place)))) ∧
      decode .float32 bytes = .ok values) ∧
    (∀ bytes : List UInt8, 4 ∣ bytes.length →
      ∃ values, decode .float32 bytes = .ok values ∧ encode .float32 values = .ok bytes) ∧
    ∀ bytes : List UInt8, ¬4 ∣ bytes.length →
      decode .float32 bytes = .error (.misaligned bytes.length 4) := by
  refine ⟨fun values => ?_, fun bytes => encode_decode_float32, fun bytes h => ?_⟩
  · refine ⟨_, encode_float32 values, ?_, ?_, decode_encode_float32 values⟩
    · rw [length_encode (encode_float32 values), Nat.mul_comm]
      rfl
    · intro i x hx place hplace
      have helement : (values.map floatBytes)[i]? = some (floatBytes x) := by
        rw [List.getElem?_map, hx, Option.map_some]
      exact (getElem?_flatten length_of_mem_map_floatBytes helement hplace).trans
        (getElem?_littleEndian hplace x.toBits)
  · exact decode_eq_error.mpr ⟨h, rfl⟩

/-- Negative zero and a signalling pattern, and a buffer that ends early. -/
theorem decode_encode_and_encode_decode_float32_signalling :
    let bytes : List UInt8 := [0, 0, 0, 128, 1, 0, 160, 255]
    4 ∣ bytes.length ∧ ¬4 ∣ (bytes.take 7).length ∧
      (∃ values, decode .float32 bytes = .ok values ∧ encode .float32 values = .ok bytes ∧
        values.map Binary.isNaN = [false, true]) ∧
      decode .float32 (bytes.take 7) = .error (.misaligned 7 4) := by
  intro bytes
  have hwhole : 4 ∣ bytes.length := by decide
  have hshort : ¬4 ∣ (bytes.take 7).length := by decide
  obtain ⟨-, hread, hrefused⟩ := decode_encode_and_encode_decode_float32
  obtain ⟨values, hvalues, hbytes⟩ := hread bytes hwhole
  have hwidths : ∀ part ∈ [[0, 0, 0, 128], [1, 0, 160, (255 : UInt8)]],
      part.length = DataType.float32.byteWidth := by decide
  have hgroups : groups DataType.float32.byteWidth DataType.float32.byteWidth_pos bytes
      = [[0, 0, 0, 128], [1, 0, 160, 255]] := groups_flatten _ hwidths
  refine ⟨hwhole, hshort, ⟨values, hvalues, hbytes, ?_⟩, hrefused _ hshort⟩
  rw [decode_of_dvd hwhole, hgroups] at hvalues
  cases hvalues
  decide

end Payload

end SearchQuery
