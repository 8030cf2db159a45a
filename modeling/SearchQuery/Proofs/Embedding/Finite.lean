import SearchQuery.Proofs.Binary.Overflow
import SearchQuery.Proofs.Embedding
import SearchQuery.Proofs.Payload.Lossless

/-!
# Finite payloads

A vector is made of finite elements, and a payload is not checked again. An
integer type refuses what it does not have. A narrow floating-point type
refuses nothing: what lies past its greatest number, by half a unit or more, is
written as an infinity.

## What is proved

`payload_reads_finite_or_overflows` — every payload of a vector is read. Where
an element overflows its type (`Payload.Overflows`) the infinity of its sign is
read, and everywhere else a finite number. So a payload is finite exactly if no
element overflows, which is so for every type but the two of half width. A type
is given to a vector exactly if it holds every element, and overflow is not
asked about.

So there is a vector whose payload has an infinity:
`exists_payload_infinite`.
-/

namespace SearchQuery

namespace Payload

/-- The element is past the greatest number of the type by half a unit or
more. -/
def Overflows : DataType → Single → Prop
  | .float16, x => 65520 ≤ x.magnitude
  | .bfloat16, x => 511 * 2 ^ 119 ≤ x.magnitude
  | _, _ => False

variable {type : DataType} {x y : Single}

/-- What is read of an element is finite, or the infinity of its sign where the
element overflows. -/
structure IsReadAs (type : DataType) (x y : Single) : Prop where
  isFinite : ¬Overflows type x → y.isFinite = true
  eq_infinity : Overflows type x → y = Binary.infinity x.negative

/-- An element is read as a finite number unless it overflows. -/
theorem IsReadAs.isFinite_iff (h : IsReadAs type x y) : y.isFinite = true ↔ ¬Overflows type x := by
  constructor
  · intro hfinite hoverflows
    rw [h.eq_infinity hoverflows, Binary.infinity, Binary.isFinite_ofOrdinal_iff] at hfinite
    exact lt_irrefl _ hfinite
  · exact h.isFinite

theorem isReadAs_of_rereads (hx : x.isFinite = true) (h : Rereads type x y) :
    IsReadAs type x y := by
  cases type with
  | int8 => exact ⟨fun _ => (sameNumber_of_rereads (.inl rfl) h).1, False.elim⟩
  | uint8 => exact ⟨fun _ => (sameNumber_of_rereads (.inr rfl) h).1, False.elim⟩
  | float64 =>
    rw [eq_of_rereads (Binary.isNaN_and_isInfinite_of_isFinite hx).1 h]
    exact ⟨fun _ => hx, False.elim⟩
  | float32 =>
    obtain ⟨element, hwrite, rfl⟩ := h
    cases hwrite
    rw [decodeElement, ofBits_floatBytes Format.fillsBytes_single]
    exact ⟨fun _ => hx, False.elim⟩
  | float16 =>
    obtain ⟨element, hwrite, rfl⟩ := h
    cases hwrite
    obtain ⟨hfinite, hinfinite⟩ := Binary.convert_convert_around_overflow Format.half_hasNormals
      Format.half_widens_single hx
    rw [Format.overflow_half] at hfinite hinfinite
    rw [decodeElement, ofBits_floatBytes Format.fillsBytes_half]
    exact ⟨hfinite, hinfinite⟩
  | bfloat16 =>
    obtain ⟨element, hwrite, rfl⟩ := h
    cases hwrite
    obtain ⟨hfinite, hinfinite⟩ := Binary.convert_convert_around_overflow Format.brain_hasNormals
      Format.brain_widens_single hx
    rw [Format.overflow_brain] at hfinite hinfinite
    rw [decodeElement, ofBits_floatBytes Format.fillsBytes_brain]
    exact ⟨hfinite, hinfinite⟩

/-- The elements of a payload are read, each of them so. -/
theorem exists_decode_isReadAs {values : List Single} {bytes : List UInt8}
    (hvalues : ∀ x ∈ values, x.isFinite = true) (h : encode type values = .ok bytes) :
    ∃ decoded, decode type bytes = .ok decoded ∧ List.Forall₂ (IsReadAs type) values decoded := by
  obtain ⟨decoded, hdecoded, hrereads⟩ := decode_of_encode h
  have hboth := (List.forall₂_and_left _ _).mpr ⟨hvalues, hrereads⟩
  exact ⟨decoded, hdecoded, hboth.imp fun x y hxy => isReadAs_of_rereads hxy.1 hxy.2⟩

/-- Elements are read as finite numbers when none of them overflows. -/
theorem forall_isFinite_iff {values decoded : List Single}
    (h : List.Forall₂ (IsReadAs type) values decoded) :
    (∀ y ∈ decoded, y.isFinite = true) ↔ ∀ x ∈ values, ¬Overflows type x :=
  ⟨fun hfinite => forall_mem_of_forall₂ h.flip fun y hy _ hxy => hxy.isFinite_iff.mp (hfinite y hy),
    fun hholds => forall_mem_of_forall₂ h fun x hx _ hxy => hxy.isFinite_iff.mpr (hholds x hx)⟩

end Payload

namespace Embedding

/-- A type is given to a vector if it holds the elements. -/
theorem exists_withType_iff {e : Embedding} {dtype : DataType} :
    (∃ next, e.withType dtype = .ok next) ↔ ∀ x ∈ e.values, Payload.Holds dtype x := by
  rw [← Payload.exists_encode_eq_ok]
  simp only [withType_eq_ok]
  constructor
  · rintro ⟨_, payload, hpayload, -⟩
    exact ⟨payload, hpayload⟩
  · rintro ⟨payload, hpayload⟩
    exact ⟨_, payload, hpayload, rfl⟩

/-- **The payload of a vector is finite where nothing overflows**, and nothing
else is asked of a type than that it holds the elements. -/
theorem payload_reads_finite_or_overflows {e : Embedding} (made : e.Made) :
    (∃ decoded, Payload.decode e.dtype e.payload = .ok decoded ∧
      List.Forall₂ (Payload.IsReadAs e.dtype) e.values decoded ∧
      ((∀ y ∈ decoded, y.isFinite = true) ↔ ∀ x ∈ e.values, ¬Payload.Overflows e.dtype x)) ∧
    ∀ dtype, (∃ next, e.withType dtype = .ok next) ↔ ∀ x ∈ e.values, Payload.Holds dtype x := by
  have sound := made.isSound
  obtain ⟨decoded, hdecoded, hreads⟩ :=
    Payload.exists_decode_isReadAs sound.isFinite_values sound.encode_values
  exact ⟨⟨decoded, hdecoded, hreads, Payload.forall_isFinite_iff hreads⟩,
    fun _ => exists_withType_iff⟩

/-- The greatest number of half precision, and the least one of another sign
that overflows it. -/
theorem payload_reads_finite_or_overflows_half :
    let values : List Single := [Binary.ofInt 65504, Binary.ofInt (-65520)]
    ∃ e : Embedding, e.Made ∧ e.values = values ∧ e.dtype = .float16 ∧
      ¬Payload.Overflows .float16 (Binary.ofInt 65504) ∧
      Payload.Overflows .float16 (Binary.ofInt (-65520)) ∧
      ∃ decoded, Payload.decode e.dtype e.payload = .ok decoded ∧
        List.Forall₂ (Payload.IsReadAs e.dtype) e.values decoded ∧
        ¬∀ y ∈ decoded, y.isFinite = true := by
  intro values
  have hlast : ¬Payload.Overflows .float16 (Binary.ofInt 65504) := by
    rw [Payload.Overflows]
    decide +kernel
  have hfirst : Payload.Overflows .float16 (Binary.ofInt (-65520)) := by
    rw [Payload.Overflows]
    decide +kernel
  obtain ⟨made, hmake⟩ : ∃ made, make values "embedding" = .ok made :=
    ⟨_, make_eq_ok.mpr ⟨by decide, by decide, by decide +kernel, rfl⟩⟩
  obtain ⟨e, htyped⟩ : ∃ e, made.withType .float16 = .ok e :=
    exists_withType_iff.mpr fun _ _ => trivial
  have hmade : e.Made := .withType (.make hmake) htyped
  obtain ⟨⟨decoded, hdecoded, hreads, hfinite⟩, -⟩ := payload_reads_finite_or_overflows hmade
  obtain ⟨-, -, -, rfl⟩ := make_eq_ok.mp hmake
  obtain ⟨payload, -, rfl⟩ := withType_eq_ok.mp htyped
  refine ⟨_, hmade, rfl, rfl, hlast, hfirst, decoded, hdecoded, hreads, ?_⟩
  rw [hfinite]
  exact fun h => h _ (List.mem_cons_of_mem _ List.mem_cons_self) hfirst

/-- **A vector with an infinity in its payload.** Half precision is given to
seventy thousand. -/
theorem exists_payload_infinite :
    ∃ made e, make [Binary.ofInt 70000] "embedding" = .ok made ∧
      made.withType .float16 = .ok e ∧
      Payload.decode e.dtype e.payload = .ok [Binary.infinity false] := by
  have hpayload : Payload.encode .float16 [Binary.ofInt 70000] = .ok [0, 124] := by decide +kernel
  exact ⟨_, _, make_eq_ok.mpr ⟨by decide, by decide, by decide +kernel, rfl⟩,
    withType_eq_ok.mpr ⟨_, hpayload, rfl⟩, by decide +kernel⟩

end Embedding

end SearchQuery
