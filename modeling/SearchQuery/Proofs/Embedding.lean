import SearchQuery.Embedding
import SearchQuery.Proofs.Payload.Layout
import SearchQuery.Proofs.Query.Accepted

/-!
# The payload of a vector

A vector is made from its elements and then, any number of times, given
another type or another weight (`Embedding.Made`). Whatever was done, what it
was checked for still holds, and its payload is that of its elements in its
type (`Embedding.Made.isSound`). So the payload has the width of the type for
each element, and there is an element (`Embedding.Made.hasPayload`).
-/

namespace SearchQuery

namespace Embedding

/-! ## Accepted vectors -/

/-- A payload is made when its elements are written. -/
theorem payloadOf_eq_ok {type : DataType} {values : List Single} {bytes : List UInt8} :
    payloadOf type values = .ok bytes ↔ Payload.encode type values = .ok bytes := by
  rw [payloadOf]
  cases Payload.encode type values with
  | ok payload => simp only [Except.ok.injEq]
  | error cause => exact ⟨nofun, nofun⟩

/-- Single precision has every element, so its payload is never refused. -/
theorem make_eq_ok {values : List Single} {field : String} {e : Embedding} :
    make values field = .ok e ↔ Query.IsNamed field ∧ values ≠ [] ∧
      (∀ x ∈ values, x.isFinite = true) ∧
      e = ⟨values, field, .float32, defaultWeight, (values.map Payload.floatBytes).flatten⟩ := by
  have hpayload : payloadOf .float32 values = .ok (values.map Payload.floatBytes).flatten :=
    payloadOf_eq_ok.mpr (Payload.encode_float32 values)
  have hfinite : (∀ x ∈ values, x.isFinite = true) ↔ values.findIdx? (!·.isFinite) = none := by
    simp
  unfold make
  rw [bind_eq_ok, exists_unit_eq_ok, Query.requireName_eq_ok, refuse_eq_ok, List.isEmpty_iff,
    hpayload, hfinite]
  refine and_congr_right fun _ => and_congr_right fun _ => ?_
  cases values.findIdx? (!·.isFinite) with
  | some position => exact ⟨nofun, nofun⟩
  | none => exact ⟨fun h => ⟨rfl, (Except.ok.inj h).symm⟩, fun h => congrArg Except.ok h.2.symm⟩

/-- A vector takes another type when its elements can be written in it, and then
has the new payload. -/
theorem withType_eq_ok {dtype : DataType} {e next : Embedding} :
    e.withType dtype = .ok next ↔ ∃ payload, Payload.encode dtype e.values = .ok payload ∧
      next = { e with dtype, payload } := by
  simp only [withType, bind_eq_ok, payloadOf_eq_ok, pure_eq_ok, eq_comm (a := next)]

/-- A vector takes a weight that is finite and above zero, and nothing else of
it changes. -/
theorem withWeight_eq_ok {weight : Double} {e next : Embedding} :
    e.withWeight weight = .ok next ↔ weight.isFinite = true ∧ weight.isPositive = true ∧
      next = { e with weight } := by
  rw [withWeight, ← and_assoc, ← Bool.and_eq_true_iff]
  split
  · next h => rw [Except.ok.injEq, eq_comm, h, eq_self, true_and]
  · next h => exact ⟨nofun, fun hall => absurd hall.1 h⟩

/-! ## Sound vectors -/

/-- What a vector was checked for holds, and its payload is the one of its
elements. -/
structure IsSound (e : Embedding) : Prop where
  isNamed_field : Query.IsNamed e.field
  values_ne_nil : e.values ≠ []
  isFinite_values : ∀ x ∈ e.values, x.isFinite = true
  isFinite_weight : e.weight.isFinite = true
  isPositive_weight : e.weight.isPositive = true
  encode_values : Payload.encode e.dtype e.values = .ok e.payload

/-- The weight of a vector that was given none is accepted as well. -/
theorem isFinite_and_isPositive_defaultWeight :
    defaultWeight.isFinite = true ∧ defaultWeight.isPositive = true := by
  decide +kernel

/-- A vector that was made is sound. -/
theorem isSound_of_make {values : List Single} {field : String} {e : Embedding}
    (h : make values field = .ok e) : e.IsSound := by
  obtain ⟨hfield, hvalues, hfinite, rfl⟩ := make_eq_ok.mp h
  obtain ⟨hweight, hpositive⟩ := isFinite_and_isPositive_defaultWeight
  exact ⟨hfield, hvalues, hfinite, hweight, hpositive, Payload.encode_float32 values⟩

/-- Another type needs nothing of the type before it. -/
theorem IsSound.withType {e next : Embedding} {dtype : DataType} (sound : e.IsSound)
    (h : e.withType dtype = .ok next) : next.IsSound := by
  obtain ⟨payload, hpayload, rfl⟩ := withType_eq_ok.mp h
  exact { sound with encode_values := hpayload }

/-- A vector with another weight is as sound as before. -/
theorem IsSound.withWeight {e next : Embedding} {weight : Double} (sound : e.IsSound)
    (h : e.withWeight weight = .ok next) : next.IsSound := by
  obtain ⟨hfinite, hpositive, rfl⟩ := withWeight_eq_ok.mp h
  exact { sound with isFinite_weight := hfinite, isPositive_weight := hpositive }

/-- Giving a vector the weight that it has changes nothing. -/
theorem IsSound.withWeight_weight {e : Embedding} (sound : e.IsSound) :
    e.withWeight e.weight = .ok e :=
  withWeight_eq_ok.mpr ⟨sound.isFinite_weight, sound.isPositive_weight, rfl⟩

/-- The vector was made from elements, and given types and weights. -/
inductive Made : Embedding → Prop
  | make {values : List Single} {field : String} {e : Embedding}
    (h : Embedding.make values field = .ok e) : Made e
  | withType {e next : Embedding} {dtype : DataType} (made : Made e)
    (h : e.withType dtype = .ok next) : Made next
  | withWeight {e next : Embedding} {weight : Double} (made : Made e)
    (h : e.withWeight weight = .ok next) : Made next

/-- **A vector stays what it was checked for**, however it was made. -/
theorem Made.isSound {e : Embedding} (h : e.Made) : e.IsSound := by
  induction h with
  | make h => exact isSound_of_make h
  | withType _ h ih => exact ih.withType h
  | withWeight _ h ih => exact ih.withWeight h

/-! ## Payloads -/

/-- The vector has an element, and its payload the width of its type for
each. -/
structure HasPayload (e : Embedding) : Prop where
  values_ne_nil : e.values ≠ []
  length_payload : e.payload.length = e.dimension * e.dtype.byteWidth

/-- The payload of a sound vector holds its elements. -/
theorem IsSound.hasPayload {e : Embedding} (h : e.IsSound) : e.HasPayload :=
  ⟨h.values_ne_nil, Payload.length_encode h.encode_values⟩

/-- The payload of a vector is not empty. -/
theorem HasPayload.payload_ne_nil {e : Embedding} (h : e.HasPayload) : e.payload ≠ [] := by
  have hdimension : 0 < e.dimension := List.length_pos_iff.mpr h.values_ne_nil
  have hlength : 0 < e.payload.length := by
    rw [h.length_payload]
    exact Nat.mul_pos hdimension e.dtype.byteWidth_pos
  exact List.length_pos_iff.mp hlength

/-- **A vector has the payload of its elements**, however it was made. -/
theorem Made.hasPayload {e : Embedding} (h : e.Made) : e.HasPayload := h.isSound.hasPayload

end Embedding

end SearchQuery
