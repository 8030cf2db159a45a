import SearchQuery.Proofs.Escape
import SearchQuery.Proofs.Syntax.Closed

/-!
# Values between delimiters

A value enters a query string behind the `:` of its field, mostly between
delimiters. It stays there when no character of it moves the scan: the
special characters of an escaped text hide behind their backslashes, and
every other character is inert (`run_escapeChars`). In a region even more
is inert (`step_region`). Outside all delimiters white space is not, and ends
the scan (`run_escapeChars_outside`).
-/

namespace SearchQuery.Syntax

open SearchQuery.Escape

/-! ## Characters that delimit nothing -/

theorem isSpecial_of_closerOf? {c d : Char} (h : closerOf? c = some d) :
    isSpecial c = true ∧ isSpecial d = true := by
  unfold closerOf? at h
  split at h <;> cases h <;> decide

theorem isSpecial_of_isCloser {c : Char} (h : isCloser c = true) : isSpecial c = true := by
  simp only [isCloser, Bool.or_eq_true, beq_iff_eq] at h
  rcases h with (rfl | rfl) | rfl <;> decide

theorem closerOf?_eq_none {c : Char} (h : isSpecial c = false) : closerOf? c = none := by
  cases hc : closerOf? c with
  | none => rfl
  | some d => rw [(isSpecial_of_closerOf? hc).1] at h; cases h

theorem isCloser_eq_false {c : Char} (h : isSpecial c = false) : isCloser c = false := by
  cases hc : isCloser c with
  | false => rfl
  | true => rw [isSpecial_of_isCloser hc] at h; cases h

/-- Two characters of which one alone is special differ. -/
theorem ne_of_isSpecial {c d : Char} (hc : isSpecial c = false) (hd : isSpecial d = true) :
    c ≠ d := by
  rintro rfl
  rw [hc] at hd
  cases hd

namespace Scan

/-! ## What leaves the scan where it was -/

/-- The scan stands outside a backslash, and the delimiter that is due, if
there is one, is special. -/
def Settled (s : Scan) : Prop := s.escaped = false ∧ ∀ d ∈ s.due.head?, isSpecial d = true

theorem settled_outside : Settled {} := by
  refine ⟨rfl, ?_⟩
  intro d hd
  cases hd

theorem settled_inside {closer : Char} (h : isSpecial closer = true) :
    Settled { due := [closer] } := by
  refine ⟨rfl, ?_⟩
  intro d hd
  cases hd
  exact h

/-- A character that is not special is inert inside a delimiter, and
outside too unless it is white space. -/
theorem step_of_not_isSpecial {s : Scan} {c : Char} (hs : s.Settled) (hc : isSpecial c = false)
    (hplace : s.due ≠ [] ∨ Text.isSpace c = false) : s.step c = some s := by
  have hescape : c ≠ '\\' := ne_of_isSpecial hc isSpecial_backslash
  have hdue : s.due.head? ≠ some c := fun h => ne_of_isSpecial hc (hs.2 c h) rfl
  have hbar : c ≠ '|' := ne_of_isSpecial hc (by decide)
  have hseparator : (s.due.isEmpty && isSeparator c) = false := by
    rcases hplace with hdue | hspace
    · rw [List.isEmpty_eq_false_iff.mpr hdue, Bool.false_and]
    · rw [isSeparator, hspace, beq_eq_false_iff_ne.mpr hbar, Bool.or_false, Bool.and_false]
  simp only [step, hs.1, beq_eq_false_iff_ne.mpr hescape, beq_eq_false_iff_ne.mpr hdue,
    closerOf?_eq_none hc, isCloser_eq_false hc, hseparator, Bool.false_eq_true, ↓reduceIte,
    Bool.or_self, ite_self]

/-- White space outside all delimiters ends the scan. -/
theorem step_of_isSpace {c : Char} (h : Text.isSpace c = true) : step {} c = none := by
  have hspecial := isSpecial_of_isSpace h
  have hescape : c ≠ '\\' := ne_of_isSpecial hspecial isSpecial_backslash
  have hseparator : isSeparator c = true := Bool.or_eq_true_iff.mpr (.inl h)
  simp only [step, beq_eq_false_iff_ne.mpr hescape, closerOf?_eq_none hspecial,
    isCloser_eq_false hspecial, hseparator]
  rfl

/-- In a region every character is inert but the backslash and the end. -/
theorem step_region {closer c : Char} (hregion : Scan.inRegion { due := [closer] } = true)
    (hend : c ≠ closer) (hescape : c ≠ '\\') :
    Scan.step { due := [closer] } c = some { due := [closer] } := by
  have hdue : ([closer].head? == some c) = false := by
    simpa only [List.head?_cons, beq_eq_false_iff_ne, ne_eq, Option.some.injEq] using hend.symm
  simp only [step, beq_eq_false_iff_ne.mpr hescape, hdue, hregion, Bool.false_eq_true, ↓reduceIte]

/-- A text of inert characters leaves the scan where it was. -/
theorem run_of_forall {s : Scan} {cs : List Char} (h : ∀ c ∈ cs, s.step c = some s) :
    s.run cs = some s := by
  induction cs with
  | nil => rfl
  | cons c cs ih =>
    rw [run_cons, h c List.mem_cons_self, Option.bind_some,
      ih fun d hd => h d (List.mem_cons_of_mem _ hd)]

/-- An escaped text leaves the scan where it was when every character that
takes no backslash is inert. -/
theorem run_escapeChars {p : Char → Bool} {s : Scan} (hs : s.escaped = false) {cs : List Char}
    (h : ∀ c ∈ cs, p c = false → s.step c = some s) : s.run (escapeChars p cs) = some s := by
  induction cs with
  | nil => rfl
  | cons c cs ih =>
    have hrest := ih fun d hd => h d (List.mem_cons_of_mem _ hd)
    cases hc : p c with
    | true => rw [escapeChars_cons_of_pos hc, run_pair hs, hrest]
    | false =>
      rw [escapeChars_cons_of_neg hc, run_cons, h c List.mem_cons_self hc, Option.bind_some, hrest]

/-- Outside all delimiters an escaped text leaves the scan where it was when it has
no white space, and ends it when it has some. -/
theorem run_escapeChars_outside (cs : List Char) :
    run {} (escapeChars isSpecial cs) = if cs.any Text.isSpace then none else some {} := by
  induction cs with
  | nil => rfl
  | cons c cs ih =>
    cases hspecial : isSpecial c with
    | true =>
      rw [escapeChars_cons_of_pos hspecial, run_pair rfl, ih, List.any_cons,
        isSpace_of_isSpecial hspecial, Bool.false_or]
    | false =>
      rw [escapeChars_cons_of_neg hspecial, run_cons, List.any_cons]
      cases hspace : Text.isSpace c with
      | true =>
        rw [step_of_isSpace hspace]
        rfl
      | false =>
        rw [step_of_not_isSpecial settled_outside hspecial (.inr hspace), Option.bind_some, ih,
          Bool.false_or]

/-- Parts that each leave the scan where it was still do with such a text
between them. -/
theorem run_intercalate {s : Scan} {separator : List Char} (hs : s.run separator = some s)
    {parts : List (List Char)} (h : ∀ part ∈ parts, s.run part = some s) :
    s.run (separator.intercalate parts) = some s := by
  induction parts with
  | nil => rfl
  | cons part parts ih =>
    have hpart := h part List.mem_cons_self
    have hrest := ih fun other hother => h other (List.mem_cons_of_mem _ hother)
    cases parts with
    | nil => rw [List.intercalate_singleton, hpart]
    | cons next parts =>
      rw [List.intercalate_cons_cons, run_append, run_append, hpart, Option.bind_some, hs,
        Option.bind_some, hrest]

/-- A value behind the sign of a field and between delimiters is passed
over when it leaves the scan inside them. -/
theorem run_enclosed {opening closer : Char} (h : closerOf? opening = some closer)
    {cs : List Char} (hcs : Scan.run { due := [closer] } cs = some { due := [closer] }) :
    Scan.run {} (':' :: opening :: (cs ++ [closer])) = some {} := by
  have hopen : Scan.run {} [':', opening] = some { due := [closer] } := by
    unfold closerOf? at h
    split at h <;> cases h <;> decide
  have hclose : Scan.run { due := [closer] } [closer] = some {} := by
    unfold closerOf? at h
    split at h <;> cases h <;> decide
  have hsplit : ':' :: opening :: (cs ++ [closer]) = [':', opening] ++ (cs ++ [closer]) := rfl
  rw [hsplit, run_append, hopen, Option.bind_some, run_append, hcs, Option.bind_some, hclose]

end Scan

/-! ## Longer atoms -/

/-- An atom goes on with what leaves the scan outside every delimiter. -/
theorem isAtom_append {cs ds : List Char} (hcs : isAtom cs = true)
    (hds : Scan.run {} ds = some {}) : isAtom (cs ++ ds) = true := by
  obtain ⟨hhead, hclosed⟩ := Bool.and_eq_true_iff.mp hcs
  refine Bool.and_eq_true_iff.mpr ⟨?_, ?_⟩
  · cases cs with
    | nil => cases hhead
    | cons c cs => exact hhead
  · rw [isClosed_iff, Scan.run_append, isClosed_iff.mp hclosed, Option.bind_some, hds]

end SearchQuery.Syntax
