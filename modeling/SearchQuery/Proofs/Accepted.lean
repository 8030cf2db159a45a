import Mathlib.Data.List.Forall2
import SearchQuery.Filter.Field
import SearchQuery.Proofs.Text.Strip

/-!
# Accepted settings

A check either refuses or answers. What is known of an answer is read off
its checks one after the other (`bind_eq_ok`). Of a list every element is
checked, up to the first that is refused (`mapM_eq_ok`, `mapM_eq_error`).
-/

namespace SearchQuery

/-- A step after a check answers when the check does and the step does. -/
theorem bind_eq_ok {α β ε : Type} {x : Except ε α} {next : α → Except ε β} {b : β} :
    x >>= next = .ok b ↔ ∃ a, x = .ok a ∧ next a = .ok b := by
  cases x with
  | error cause =>
    constructor
    · intro h
      cases h
    · rintro ⟨a, h, -⟩
      cases h
  | ok a =>
    constructor
    · exact fun h => ⟨a, rfl, h⟩
    · rintro ⟨a', h, hnext⟩
      cases h
      exact hnext

/-- It refuses when the check does, or when the step does after its answer. -/
theorem bind_eq_error {α β ε : Type} {x : Except ε α} {next : α → Except ε β} {cause : ε} :
    x >>= next = .error cause ↔ x = .error cause ∨ ∃ a, x = .ok a ∧ next a = .error cause := by
  cases x with
  | error refused =>
    constructor
    · intro h
      cases h
      exact .inl rfl
    · rintro (h | ⟨a, h, -⟩)
      · cases h
        rfl
      · cases h
  | ok a =>
    constructor
    · exact fun h => .inr ⟨a, rfl, h⟩
    · rintro (h | ⟨a', h, hnext⟩)
      · cases h
      · cases h
        exact hnext

/-- A check that answers nothing has one answer. -/
theorem exists_unit_eq_ok {ε : Type} {x : Except ε Unit} {p : Prop} :
    (∃ a, x = .ok a ∧ p) ↔ x = .ok () ∧ p := by
  constructor
  · rintro ⟨⟨⟩, h⟩
    exact h
  · exact fun h => ⟨(), h⟩

theorem pure_eq_ok {α ε : Type} {a b : α} : (pure a : Except ε α) = .ok b ↔ a = b :=
  ⟨Except.ok.inj, congrArg Except.ok⟩

/-- A refusal is not changed by what would come after an answer. -/
theorem bind_pure_eq_error {α β ε : Type} {x : Except ε α} {f : α → β} {cause : ε} :
    (do return f (← x)) = Except.error cause ↔ x = .error cause := by
  cases x with
  | error refused =>
    constructor
    · intro h
      cases h
      rfl
    · intro h
      cases h
      rfl
  | ok a => exact ⟨nofun, nofun⟩

/-- What comes after a refusal is reached where the refusal does not hold. -/
theorem refuse_eq_ok {α β ε : Type} {c : Prop} [Decidable c] {cause : ε}
    {next : α → Except ε β} {rest : Except ε β} {b : β} :
    (if c then throw cause >>= next else rest) = .ok b ↔ ¬c ∧ rest = .ok b := by
  split
  · next hc =>
    constructor
    · intro h
      cases h
    · rintro ⟨hnot, -⟩
      exact absurd hc hnot
  · next hc => exact ⟨fun h => ⟨hc, h⟩, fun h => h.2⟩

/-- A refusal that nothing comes after. -/
theorem refuse_unit_eq_ok {ε : Type} {c : Prop} [Decidable c] {cause : ε} :
    (if c then throw cause else pure () : Except ε Unit) = .ok () ↔ ¬c := by
  split
  · next hc =>
    constructor
    · intro h
      cases h
    · exact fun hnot => absurd hc hnot
  · next hc => exact ⟨fun _ => hc, fun _ => rfl⟩

/-! ## Lists -/

section Lists

variable {α β ε : Type} {check : α → Except ε β} {xs : List α}

/-- What is known of each answer is known of all answers to a list. -/
theorem forall_mem_of_forall₂ {R : α → β → Prop} {p : β → Prop} {ys : List β}
    (h : List.Forall₂ R xs ys) (hanswer : ∀ x ∈ xs, ∀ y, R x y → p y) : ∀ y ∈ ys, p y := by
  induction h with
  | nil => exact List.forall_mem_nil _
  | cons hxy _ ih =>
    obtain ⟨hfirst, hrest⟩ := List.forall_mem_cons.mp hanswer
    exact List.forall_mem_cons.mpr ⟨hfirst _ hxy, ih hrest⟩

/-- A list is accepted when every element is. -/
theorem mapM_eq_ok {ys : List β} :
    xs.mapM check = .ok ys ↔ List.Forall₂ (fun x y => check x = .ok y) xs ys := by
  induction xs generalizing ys with
  | nil => rw [List.mapM_nil, pure_eq_ok, List.forall₂_nil_left_iff, eq_comm]
  | cons x xs ih =>
    simp only [List.mapM_cons, bind_eq_ok, pure_eq_ok, ih, List.forall₂_cons_left_iff]
    constructor
    · rintro ⟨y, hy, ys, hys, rfl⟩
      exact ⟨y, ys, hy, hys, rfl⟩
    · rintro ⟨y, ys, hy, hys, rfl⟩
      exact ⟨y, hy, ys, hys, rfl⟩

/-- A list is accepted when its elements are, one by one. -/
theorem exists_mapM_eq_ok :
    (∃ ys, xs.mapM check = .ok ys) ↔ ∀ x ∈ xs, ∃ y, check x = .ok y := by
  simp only [mapM_eq_ok]
  induction xs with
  | nil => exact ⟨fun _ => List.forall_mem_nil _, fun _ => ⟨[], .nil⟩⟩
  | cons x xs ih =>
    rw [List.forall_mem_cons, ← ih]
    constructor
    · rintro ⟨_, _ | ⟨hy, hys⟩⟩
      exact ⟨⟨_, hy⟩, _, hys⟩
    · rintro ⟨⟨y, hy⟩, ys, hys⟩
      exact ⟨y :: ys, .cons hy hys⟩

/-- A list is refused for the first element that is refused. -/
theorem mapM_eq_error {cause : ε} :
    xs.mapM check = .error cause ↔ ∃ before x after, xs = before ++ x :: after ∧
      (∀ y ∈ before, ∃ b, check y = .ok b) ∧ check x = .error cause := by
  induction xs with
  | nil =>
    constructor
    · intro h
      cases h
    · rintro ⟨before, x, after, h, -⟩
      exact absurd h.symm (by simp)
  | cons x xs ih =>
    rw [List.mapM_cons]
    cases hx : check x with
    | error refused =>
      constructor
      · intro h
        cases h
        exact ⟨[], x, xs, rfl, by simp, hx⟩
      · rintro ⟨before, y, after, hsplit, hbefore, hy⟩
        cases before with
        | nil =>
          cases hsplit
          cases hx.symm.trans hy
          rfl
        | cons first before =>
          obtain ⟨b, hb⟩ := hbefore first List.mem_cons_self
          cases hsplit
          rw [hx] at hb
          cases hb
    | ok b =>
      refine (bind_pure_eq_error (f := (b :: ·))).trans (ih.trans ?_)
      constructor
      · rintro ⟨before, y, after, rfl, hbefore, hy⟩
        exact ⟨x :: before, y, after, rfl, List.forall_mem_cons.mpr ⟨⟨b, hx⟩, hbefore⟩, hy⟩
      · rintro ⟨before, y, after, hsplit, hbefore, hy⟩
        cases before with
        | nil =>
          cases hsplit
          rw [hx] at hy
          cases hy
        | cons first before =>
          cases hsplit
          exact ⟨before, y, after, rfl, (List.forall_mem_cons.mp hbefore).2, hy⟩

end Lists

/-! ## Fields and values -/

namespace Filter

/-- The reference to a field. -/
theorem fieldRef_eq_ok {field : String} (hfield : Text.isBlank field = false) :
    fieldRef field = .ok ("@" ++ Escape.field field) := by
  rw [fieldRef, requireName, hfield]
  rfl

/-- A step on the reference to a field goes on with the field's sign and
its escaped name. -/
theorem fieldRef_bind_eq_ok {β : Type} {field : String} {next : String → Except Invalid β}
    {b : β} (h : fieldRef field >>= next = .ok b) : next ("@" ++ Escape.field field) = .ok b := by
  obtain ⟨ref, href, hnext⟩ := bind_eq_ok.mp h
  obtain ⟨-, -, href⟩ := bind_eq_ok.mp href
  cases href
  exact hnext

/-- A value that is not blank is taken without its white space. -/
theorem required_eq_ok {what value : String} (hvalue : Text.isBlank value = false) :
    required what value = .ok (Text.trim value) := by
  rw [required, Text.isEmpty_trim, hvalue]
  rfl

end Filter

end SearchQuery
