import Mathlib.Data.List.TakeWhile
import SearchQuery.Text.Blank

/-!
# Stripped texts

What is left of a text when the characters of a class are taken off both of
its ends: a text that has none of them there (`isBare_strip`), nothing if
there is nothing else (`strip_eq_nil`), and the text itself if there was
nothing to take off (`strip_of_isBare`).
-/

namespace SearchQuery.Text

variable {p : Char → Bool} {cs : List Char}

/-- No character of a class stands at either end. -/
def IsBare (p : Char → Bool) (cs : List Char) : Prop :=
  (∀ c ∈ cs.head?, p c = false) ∧ ∀ c ∈ cs.getLast?, p c = false

/-- Stripping a text takes characters off it and adds none. -/
theorem mem_of_mem_strip {c : Char} (h : c ∈ strip p cs) : c ∈ cs := by
  rw [strip, List.mem_reverse] at h
  have hreverse := (List.dropWhile_sublist p).mem h
  exact (List.dropWhile_sublist p).mem (List.mem_reverse.mp hreverse)

/-- A text without the class at its ends is left as it is. -/
theorem strip_of_isBare (h : IsBare p cs) : strip p cs = cs := by
  have hself {ds : List Char} (hds : ∀ c ∈ ds.head?, p c = false) : ds.dropWhile p = ds := by
    cases ds with
    | nil => rfl
    | cons d ds => exact List.dropWhile_cons_of_neg (by simp [hds d rfl])
  rw [strip, hself h.1, hself, List.reverse_reverse]
  rw [List.head?_reverse]
  exact h.2

theorem strip_eq_self (h : ∀ c ∈ cs, p c = false) : strip p cs = cs := by
  apply strip_of_isBare
  constructor
  · exact fun c hc => h c (List.mem_of_head? hc)
  · exact fun c hc => h c (List.mem_of_getLast? hc)

theorem head?_dropWhile (cs : List Char) : ∀ c ∈ (cs.dropWhile p).head?, p c = false := by
  intro c hc
  have hnot := List.head?_dropWhile_not p cs
  rw [Option.mem_def.mp hc] at hnot
  exact hnot

/-- What is left of a text has the class at neither end. -/
theorem isBare_strip (p : Char → Bool) (cs : List Char) : IsBare p (strip p cs) := by
  constructor
  · intro c hc
    -- what the second pass leaves is a front of what the first one left
    obtain ⟨back, hback⟩ : ∃ back, strip p cs ++ back = cs.dropWhile p := by
      refine ⟨((cs.dropWhile p).reverse.takeWhile p).reverse, ?_⟩
      rw [strip, ← List.reverse_append, List.takeWhile_append_dropWhile, List.reverse_reverse]
    apply head?_dropWhile cs c
    rw [← hback, List.head?_append, Option.mem_def.mp hc]
    rfl
  · intro c hc
    rw [strip, List.getLast?_reverse] at hc
    exact head?_dropWhile _ c hc

/-- Nothing is left of a text when it is all of the class. -/
theorem strip_eq_nil : strip p cs = [] ↔ ∀ c ∈ cs, p c = true := by
  rw [strip, List.reverse_eq_nil_iff, List.dropWhile_eq_nil_iff]
  constructor
  · intro h
    -- what the first pass leaves is of the class too, so it leaves nothing
    have hnil : cs.dropWhile p = [] := by
      by_contra hne
      have hhead := List.head_dropWhile_not p hne
      rw [h _ (List.mem_reverse.mpr (List.head_mem hne))] at hhead
      cases hhead
    exact List.dropWhile_eq_nil_iff.mp hnil
  · intro h c hc
    exact h c ((List.dropWhile_sublist p).mem (List.mem_reverse.mp hc))

/-- Nothing is left of a blank text without its white space, and something is of
any other. -/
theorem isEmpty_trim (s : String) : (trim s).isEmpty = isBlank s := by
  rw [Bool.eq_iff_iff, String.isEmpty_iff, trim, String.ofList_eq_empty_iff, strip_eq_nil,
    isBlank, List.all_eq_true]

end SearchQuery.Text
