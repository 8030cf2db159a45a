import SearchQuery.Proofs.Binary.Order
import SearchQuery.Proofs.Embedding
import SearchQuery.Proofs.Query.Rebuilt
import SearchQuery.Spec.Parts

/-!
# Vectors that are changed

A vector that is kept can be given another type or another weight. A change
that is refused leaves it as it was. So a vector is always the one that a
specification makes of its elements, with the last accepted type and the last
accepted weight in it.

That a payload is never written from an earlier payload is what makes this
true: a type that cannot hold the elements exactly is left again without loss.

## What is proved

`changes_keep_elements` — after any changes the elements are those that were
given, what was checked still holds, and the payload is the one of the
elements in the last accepted type. Whether a type is accepted, and the payload
that it gives, do not depend on the changes before it. A specification gives
its vector the type and the weight in this order, also where it leaves the
second out.
-/

namespace SearchQuery

open Query (Call after accepted last? Rebuilds)

namespace Embedding

/-- A change of a vector. -/
inductive Change where
  | dtype (type : DataType)
  | weight (w : Double)
deriving DecidableEq

namespace Change

/-- What a change makes of a vector. -/
def apply : Change → Embedding → Except Invalid Embedding
  | dtype type => withType type
  | weight w => withWeight w

/-- The call that makes a change of a vector that is kept. -/
def call (change : Change) : Call Embedding Unit := do
  set (← change.apply (← get))

/-- The type that a change gives. -/
def dtype? : Change → Option DataType
  | dtype type => some type
  | weight _ => none

/-- The weight that a change gives. -/
def weight? : Change → Option Double
  | dtype _ => none
  | weight w => some w

end Change

end Embedding

/-! ## Specifications -/

namespace VectorSpec

/-- The weight that a vector has without being told is left out of the steps,
and giving it changes nothing. -/
theorem toEmbedding_eq (v : VectorSpec) :
    v.toEmbedding = (do
      let made ← Embedding.make v.values v.field
      let typed ← made.withType v.dtype
      typed.withWeight v.weight) := by
  rw [toEmbedding]
  cases hmade : Embedding.make v.values v.field with
  | error cause => rfl
  | ok made =>
    change made.withType v.dtype >>= _ = made.withType v.dtype >>= _
    cases htyped : made.withType v.dtype with
    | error cause => rfl
    | ok typed =>
      change (if v.weight.eq Embedding.defaultWeight then pure typed else _) = _
      split
      · next hone =>
        have hdefault : v.weight = Embedding.defaultWeight :=
          Binary.eq_of_eq_of_isPositive hone Embedding.isFinite_and_isPositive_defaultWeight.2
        have hkept : typed.weight = Embedding.defaultWeight := by
          obtain ⟨-, -, -, rfl⟩ := Embedding.make_eq_ok.mp hmade
          obtain ⟨payload, -, rfl⟩ := Embedding.withType_eq_ok.mp htyped
          rfl
        have sound := (Embedding.isSound_of_make hmade).withType htyped
        rw [hdefault, ← hkept]
        exact sound.withWeight_weight.symm
      · rfl

/-- The vector of a specification is the sound one of its settings. -/
theorem toEmbedding_eq_ok {v : VectorSpec} {e : Embedding} :
    v.toEmbedding = .ok e ↔ e.IsSound ∧ v = ⟨e.field, e.values, e.dtype, e.weight⟩ := by
  rw [toEmbedding_eq]
  simp only [bind_eq_ok, Embedding.make_eq_ok, Embedding.withType_eq_ok,
    Embedding.withWeight_eq_ok]
  constructor
  · rintro ⟨_, ⟨hfield, hvalues, hfinite, rfl⟩, _, ⟨payload, hpayload, rfl⟩, hweight, hpositive, rfl⟩
    exact ⟨⟨hfield, hvalues, hfinite, hweight, hpositive, hpayload⟩, rfl⟩
  · rintro ⟨sound, rfl⟩
    exact ⟨_, ⟨sound.isNamed_field, sound.values_ne_nil, sound.isFinite_values, rfl⟩, _,
      ⟨e.payload, sound.encode_values, rfl⟩, sound.isFinite_weight, sound.isPositive_weight, rfl⟩

/-- A specification with changes in it: the last type and the last weight. -/
def settled (v : VectorSpec) (changes : List Embedding.Change) : VectorSpec :=
  { v with
    dtype := (last? Embedding.Change.dtype? changes).getD v.dtype
    weight := (last? Embedding.Change.weight? changes).getD v.weight }

theorem settled_cons (v : VectorSpec) (change : Embedding.Change)
    (changes : List Embedding.Change) :
    v.settled (change :: changes) = (v.settled [change]).settled changes := by
  rw [settled, Query.getD_last?_cons, Query.getD_last?_cons Embedding.Change.weight?]
  rfl

/-- Changing a vector is making it of the changed specification. -/
theorem rebuilds : Rebuilds toEmbedding Embedding.Change.call settled where
  nil _ := rfl
  cons := settled_cons
  step change e := by
    rw [Embedding.Change.call, Call.on_check change.apply]
    cases hchange : change.apply e with
    | error cause => exact .inl ⟨cause, rfl⟩
    | ok next =>
      refine .inr ⟨(), next, rfl, fun {v} hmade => ?_⟩
      obtain ⟨sound, rfl⟩ := toEmbedding_eq_ok.mp hmade
      rw [toEmbedding_eq_ok]
      cases change with
      | dtype type =>
        refine ⟨sound.withType hchange, ?_⟩
        obtain ⟨payload, -, rfl⟩ := Embedding.withType_eq_ok.mp hchange
        rfl
      | weight w =>
        refine ⟨sound.withWeight hchange, ?_⟩
        obtain ⟨-, -, rfl⟩ := Embedding.withWeight_eq_ok.mp hchange
        rfl

end VectorSpec

namespace Embedding

/-- A vector that was just made is the one of a specification that tells no
more. -/
theorem toEmbedding_of_make {values : List Single} {field : String} {made : Embedding}
    (h : make values field = .ok made) :
    VectorSpec.toEmbedding { field, values } = .ok made := by
  obtain ⟨-, -, -, rfl⟩ := make_eq_ok.mp h
  exact VectorSpec.toEmbedding_eq_ok.mpr ⟨isSound_of_make h, rfl⟩

/-- A change of type looks at the elements alone. -/
theorem map_payload_withType (dtype : DataType) (e : Embedding) :
    payload <$> e.withType dtype = payloadOf dtype e.values := by
  rw [withType]
  cases payloadOf dtype e.values <;> rfl

/-- **A changed vector is the one of its elements.** -/
theorem changes_keep_elements :
    (∀ values field made changes, make values field = .ok made →
      let kept := accepted Change.call made changes
      let e := after Change.call made changes
      e.values = values ∧ e.field = field ∧
      e.dtype = (last? Change.dtype? kept).getD .float32 ∧
      e.weight = (last? Change.weight? kept).getD defaultWeight ∧
      e.IsSound ∧ e.HasPayload ∧
      ∀ dtype, payload <$> e.withType dtype = payload <$> made.withType dtype) ∧
    (∀ change e cause next, (Change.call change).on e = (.error cause, next) → next = e) ∧
    ∀ spec : VectorSpec, spec.toEmbedding = (do
      let made ← make spec.values spec.field
      let typed ← made.withType spec.dtype
      typed.withWeight spec.weight) := by
  refine ⟨?_, ?_, VectorSpec.toEmbedding_eq⟩
  · intro values field made changes hmake kept e
    have hbuild := VectorSpec.rebuilds.build_settled (toEmbedding_of_make hmake) changes
    obtain ⟨sound, hspec⟩ := VectorSpec.toEmbedding_eq_ok.mp hbuild
    obtain ⟨hfield, hvalues, hdtype, hweight⟩ := VectorSpec.mk.inj hspec
    refine ⟨hvalues.symm, hfield.symm, hdtype.symm, hweight.symm, sound, sound.hasPayload, ?_⟩
    intro dtype
    obtain ⟨-, -, -, rfl⟩ := make_eq_ok.mp hmake
    rw [map_payload_withType, map_payload_withType, ← hvalues]
  · intro change e cause next hcall
    exact VectorSpec.rebuilds.on_eq_of_refused hcall

/-- An element that half precision does not have, stored in it and then again
in single precision. A type and a weight are refused in between. -/
theorem changes_keep_elements_mixed :
    let half : Double := ⟨false, 4602678819172646912, by decide⟩
    let values : List Single := [Binary.ofInt 2049, Binary.ofInt (-1)]
    let changes := [Change.dtype .float16, .dtype .int8, .weight half, .weight half.neg,
      .dtype .float32]
    ∃ made, make values "embedding" = .ok made ∧
      accepted Change.call made changes = [.dtype .float16, .weight half, .dtype .float32] ∧
      (after Change.call made changes).values = values ∧
      (after Change.call made changes).dtype = .float32 ∧
      (after Change.call made changes).weight = half ∧
      (after Change.call made changes).IsSound := by
  intro half values changes
  obtain ⟨made, hmake⟩ : ∃ made, make values "embedding" = .ok made :=
    ⟨_, make_eq_ok.mpr ⟨by decide, by decide, by decide +kernel, rfl⟩⟩
  have haccepted : accepted Change.call made changes
      = [.dtype .float16, .weight half, .dtype .float32] := by
    obtain ⟨-, -, -, rfl⟩ := make_eq_ok.mp hmake
    decide +kernel
  obtain ⟨hvalues, -, hdtype, hweight, sound, -⟩ :=
    changes_keep_elements.1 values "embedding" made changes hmake
  rw [haccepted] at hdtype hweight
  exact ⟨made, hmake, haccepted, hvalues, hdtype, hweight, sound⟩

end Embedding

end SearchQuery
