import Mathlib.Data.List.Nodup
import Mathlib.Data.List.Pairwise
import Mathlib.Data.List.Perm.Basic
import Mathlib.Data.String.Basic
import SearchQuery.Command

/-!
# The values of placeholders

Parameters are kept in the order of their names (`ordered_ofList`). What
order they were given in does not matter, and while no name is given twice
none is lost (`ofList_perm`). As arguments each name comes right before its
own value, in that order (`exists_args_eq`).
-/

namespace SearchQuery.Parameters

/-- The names of the parameters. -/
def names (params : Parameters) : List String := params.map Prod.fst

/-- A value of a new name replaces none. -/
theorem insert_perm {name : String} {params : Parameters} (h : name ∉ params.names)
    (value : Parameter) : (insert name value params).Perm ((name, value) :: params) := by
  induction params with
  | nil => exact .refl _
  | cons entry rest ih =>
    obtain ⟨other, old⟩ := entry
    obtain ⟨hne, hrest⟩ : name ≠ other ∧ name ∉ Parameters.names rest := by
      simpa only [names, List.map_cons, List.mem_cons, not_or] using h
    rw [insert]
    split
    · exact .refl _
    · rw [if_neg (by simpa only [beq_iff_eq] using hne)]
      exact ((ih hrest).cons _).trans (.swap _ _ _)

/-- Values of new and different names are added to the parameters. -/
theorem foldl_insert_perm {values : List (String × Parameter)} {params : Parameters}
    (h : (Parameters.names (values ++ params)).Nodup) :
    (values.foldl (fun params (name, value) => insert name value params) params).Perm
      (values ++ params) := by
  induction values generalizing params with
  | nil => exact .refl params
  | cons entry values ih =>
    obtain ⟨name, value⟩ := entry
    have hfresh : name ∉ params.names := by
      simp only [names, List.cons_append, List.map_cons, List.map_append, List.nodup_cons,
        List.mem_append, not_or] at h
      exact h.1.2
    have hmoved : (values ++ insert name value params).Perm ((name, value) :: (values ++ params)) :=
      ((insert_perm hfresh value).append_left values).trans List.perm_middle
    exact (ih ((hmoved.map Prod.fst).nodup_iff.mpr h)).trans hmoved

/-- The parameters of values under different names are those values. -/
theorem ofList_perm {values : List (String × Parameter)}
    (h : (Parameters.names values).Nodup) : (ofList values).Perm values := by
  have hnodup : (Parameters.names (values ++ [])).Nodup := by rwa [List.append_nil]
  have hperm := foldl_insert_perm hnodup
  rwa [List.append_nil] at hperm

/-- No value under a name of its own is lost. -/
theorem mem_ofList {values : List (String × Parameter)} (h : (Parameters.names values).Nodup)
    {entry : String × Parameter} : entry ∈ ofList values ↔ entry ∈ values :=
  (ofList_perm h).mem_iff

/-- A name that is given once has one value. -/
theorem eq_of_mem {values : List (String × Parameter)} (h : (Parameters.names values).Nodup)
    {name : String} {value other : Parameter} (hvalue : (name, value) ∈ values)
    (hother : (name, other) ∈ values) : value = other := by
  have hsame := List.inj_on_of_nodup_map h hvalue hother rfl
  exact (Prod.mk.inj hsame).2

/-! ## The order of the names -/

def Ordered (params : Parameters) : Prop := params.names.Pairwise (· < ·)

theorem mem_names_insert {name other : String} {value : Parameter} {params : Parameters}
    (h : other ∈ (insert name value params).names) : other = name ∨ other ∈ params.names := by
  induction params with
  | nil => exact .inl (List.mem_singleton.mp h)
  | cons entry rest ih =>
    obtain ⟨first, old⟩ := entry
    rw [insert] at h
    split at h
    on_goal 2 => split at h
    all_goals
      simp only [names, List.map_cons, List.mem_cons] at h ih ⊢
      tauto

/-- Parameters stay in order when one is inserted. -/
theorem ordered_insert {params : Parameters} (h : params.Ordered) (name : String)
    (value : Parameter) : (insert name value params).Ordered := by
  induction params with
  | nil => exact List.pairwise_singleton _ _
  | cons entry rest ih =>
    obtain ⟨first, old⟩ := entry
    obtain ⟨hfirst, hrest⟩ := List.pairwise_cons.mp h
    rw [insert]
    split
    · next hless => exact List.Pairwise.cons_cons_of_trans hless h
    · next hnotless =>
      split
      · next hsame =>
        cases beq_iff_eq.mp hsame
        exact h
      · next hother =>
        -- neither smaller nor the same, so the first name stays first
        have hgreater : first < name :=
          lt_of_le_of_ne (not_lt.mp hnotless) (fun heq => hother (beq_iff_eq.mpr heq.symm))
        refine List.pairwise_cons.mpr ⟨?_, ih hrest⟩
        intro other hmem
        rcases mem_names_insert hmem with rfl | hmem
        · exact hgreater
        · exact hfirst other hmem

/-- Parameters are in order, in whatever order their values were given. -/
theorem ordered_ofList (values : List (String × Parameter)) : (ofList values).Ordered := by
  have hrun : ∀ {params : Parameters}, params.Ordered →
      (values.foldl (fun params (name, value) => insert name value params) params).Ordered := by
    induction values with
    | nil => exact id
    | cons entry values ih => exact fun h => ih (ordered_insert h entry.1 entry.2)
  exact hrun List.Pairwise.nil

/-! ## Arguments -/

/-- A rearrangement of values is that of what they are made of. -/
theorem exists_perm_of_perm_map {α β : Type} {f : α → β} {bs : List β} {as : List α}
    (h : bs.Perm (as.map f)) : ∃ order : List α, order.Perm as ∧ order.map f = bs := by
  have hmade : List.Forall₂ (fun b a => f a = b) (as.map f) as := by
    rw [List.forall₂_map_left_iff, List.forall₂_same]
    exact fun _ _ => rfl
  obtain ⟨order, horder, hperm⟩ := List.perm_comp_forall₂ h hmade
  refine ⟨order, hperm, ?_⟩
  clear h hperm
  induction horder with
  | nil => rfl
  | cons hhead _ ih => rw [List.map_cons, hhead, ih]

theorem length_flatMap_pair {α : Type} (first second : α → Argument) (as : List α) :
    (as.flatMap fun a => [first a, second a]).length = 2 * as.length := by
  induction as with
  | nil => rfl
  | cons a as ih =>
    simp only [List.flatMap_cons, List.length_append, ih, List.length_cons, List.length_nil]
    omega

/-- In the order of the names, each name and its own value come one right
after the other. -/
theorem exists_args_eq {α : Type} (entry : α → String × Parameter) {as : List α}
    (hnodup : (Parameters.names (as.map entry)).Nodup) (hne : as ≠ []) :
    ∃ order : List α, order.Perm as ∧ (order.map fun a => (entry a).1).Pairwise (· < ·) ∧
      (ofList (as.map entry)).args = .text "PARAMS" :: .ofNat (2 * as.length) ::
        order.flatMap fun a => [.text (entry a).1, (entry a).2.toArgument] := by
  obtain ⟨order, hperm, hmap⟩ := exists_perm_of_perm_map (ofList_perm hnodup)
  refine ⟨order, hperm, ?_, ?_⟩
  · have hordered := ordered_ofList (as.map entry)
    rw [Ordered, names, ← hmap, List.map_map] at hordered
    exact hordered
  · have hlength := length_flatMap_pair (fun a => .text (entry a).1)
      (fun a => (entry a).2.toArgument) order
    have hpos : 0 < order.length := by
      rw [hperm.length_eq]
      exact List.length_pos_iff.mpr hne
    have hcounted : (order.flatMap fun a =>
        [Argument.text (entry a).1, (entry a).2.toArgument]).isEmpty = false := by
      rw [List.isEmpty_eq_false_iff, ← List.length_pos_iff, hlength]
      omega
    rw [args, ← hmap, List.flatMap_map, counted, hcounted, hlength, hperm.length_eq]
    rfl

end SearchQuery.Parameters
