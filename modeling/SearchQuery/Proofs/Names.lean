import Mathlib.Data.List.Nodup

/-!
# Names and positions

Entries go by their names. What is found by a name is there
(`mem_of_lookup`), and while no two entries have one name each is found by
its own (`lookup_of_mem`). Names that number the positions of a list
behind a common stem are no two the same (`numbered_injective`).

A loop that hands the position on from element to element does the same as
one that is told the position of each (`eq_mapIdx_of_cons`).
-/

namespace SearchQuery

/-- Among distinct names, an entry is found by its name. -/
theorem lookup_of_mem {α : Type} {entries : List (String × α)}
    (hnodup : (entries.map Prod.fst).Nodup) {name : String} {value : α}
    (h : (name, value) ∈ entries) : entries.lookup name = some value := by
  obtain ⟨before, rest, rfl⟩ := List.append_of_mem h
  rw [List.map_append, List.map_cons] at hnodup
  refine List.lookup_eq_some_iff.mpr ⟨before, rest, rfl, ?_⟩
  intro entry hentry
  rw [bne_iff_ne]
  rintro rfl
  exact (List.nodup_append.mp hnodup).2.2 _ (List.mem_map.mpr ⟨entry, hentry, rfl⟩) _
    List.mem_cons_self rfl

/-- What is found by its name is there. -/
theorem mem_of_lookup {α : Type} {entries : List (String × α)} {name : String} {value : α}
    (h : entries.lookup name = some value) : (name, value) ∈ entries := by
  obtain ⟨before, rest, rfl, -⟩ := List.lookup_eq_some_iff.mp h
  exact List.mem_append_right _ List.mem_cons_self

/-- A name is looked for past one that differs. -/
theorem lookup_cons_of_ne {α : Type} {entries : List (String × α)} {name other : String}
    {value : α} (h : ¬(other == name) = true) :
    ((other, value) :: entries).lookup name = entries.lookup name := by
  have hne : (name == other) = false := by
    rw [beq_eq_false_iff_ne]
    rintro rfl
    exact h (beq_self_eq_true name)
  rw [List.lookup_cons, hne]

/-- No two positions have one name behind one stem. -/
theorem numbered_injective (stem : String) :
    Function.Injective fun position : Nat => stem ++ toString position := by
  intro i j h
  have hdigits := congrArg String.toList h
  simp only [String.toList_append, List.append_cancel_left_eq, Nat.toString_eq_repr,
    Nat.toList_repr] at hdigits
  calc i = Nat.ofDigitChars 10 (Nat.toDigits 10 i) 0 := Nat.ofDigitChars_ten_toDigits.symm
    _ = Nat.ofDigitChars 10 (Nat.toDigits 10 j) 0 := by rw [hdigits]
    _ = j := Nat.ofDigitChars_ten_toDigits

/-- A loop that counts the positions from a first one. -/
theorem eq_mapIdx_of_cons {α β : Type} {f : Nat → List α → List β} {g : Nat → α → β}
    (hnil : ∀ position, f position [] = [])
    (hcons : ∀ position a as, f position (a :: as) = g position a :: f (position + 1) as)
    (position : Nat) (as : List α) :
    f position as = as.mapIdx fun i a => g (position + i) a := by
  induction as generalizing position with
  | nil => exact hnil position
  | cons a as ih =>
    rw [hcons, ih, List.mapIdx_cons]
    simp only [Nat.add_assoc, Nat.add_comm 1, Nat.add_zero]

end SearchQuery
