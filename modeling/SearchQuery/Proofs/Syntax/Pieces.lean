import SearchQuery.Proofs.Syntax.Alternatives
import SearchQuery.Proofs.Syntax.Closed

/-!
# Pieces of a query string

Open separators cut a text into pieces, up to the delimiter that closes what
the text stands in. Whoever reads alternatives finds these pieces and what
comes after them, without knowing what the alternatives are.

Closed texts that are joined by bars are the pieces that are found
(`alternativesOf_intercalate`): a closed text moves the scan from outside to
outside (`pieces_append`), so it adds itself to one piece and no more.
-/

namespace SearchQuery.Syntax

/-- Pieces of a text, and the text after the last of them. -/
structure Pieces where
  texts : List (List Char)
  rest : List Char
deriving DecidableEq

namespace Pieces

/-- The pieces with some characters in front of the first. -/
def extend (cs : List Char) (p : Pieces) : Pieces := { p with texts := p.texts.modifyHead (cs ++ ·) }

/-- The pieces with an empty one before them. -/
def cut (p : Pieces) : Pieces := { p with texts := [] :: p.texts }

/-- The pieces that are not empty. -/
def nonempty (p : Pieces) : Pieces := { p with texts := p.texts.filter (· ≠ []) }

/-- Nothing before the first piece leaves the pieces as they are. -/
theorem extend_nil (p : Pieces) : p.extend [] = p :=
  congrArg (Pieces.mk · p.rest) (congrFun List.modifyHead_id p.texts)

/-- A text goes in front of the first piece character by character. -/
theorem extend_cons (c : Char) (cs : List Char) (p : Pieces) :
    p.extend (c :: cs) = (p.extend cs).extend [c] := by
  simp only [extend, List.modifyHead_modifyHead]
  rfl

/-- A cut by itself adds no piece but an empty one. -/
theorem nonempty_cut (p : Pieces) : p.cut.nonempty = p.nonempty := by
  simp [cut, nonempty]

/-- A text before a cut is a piece of its own. -/
theorem nonempty_extend_cut {cs : List Char} (h : cs ≠ []) (p : Pieces) :
    (p.cut.extend cs).nonempty = { p.nonempty with texts := cs :: p.nonempty.texts } := by
  simp [extend, cut, nonempty, h]

end Pieces

/-- The pieces of a text from where a scan stands. -/
def pieces (s : Scan) : List Char → Pieces
  | [] => ⟨[[]], []⟩
  | c :: cs =>
    match s.step c with
    | some next => (pieces next cs).extend [c]
    | none => if isSeparator c then (pieces s cs).cut else ⟨[[]], c :: cs⟩

/-- The alternatives at the head of a query string, inside its first
parenthesis if it starts with one, and what comes after them. -/
def alternativesOf : List Char → Pieces
  | '(' :: cs => (pieces {} cs).nonempty
  | cs => (pieces {} cs).nonempty

/-- The text is over, or goes on with a delimiter that is not open. -/
def Ends (rest : List Char) : Prop := ∀ c ∈ rest.head?, isCloser c = true

/-- A text that is scanned without an end in it goes into the first piece of
what follows. -/
theorem pieces_append {s next : Scan} {cs : List Char} (h : s.run cs = some next)
    (rest : List Char) : pieces s (cs ++ rest) = (pieces next rest).extend cs := by
  induction cs generalizing s with
  | nil =>
    cases h
    exact (Pieces.extend_nil _).symm
  | cons c cs ih =>
    obtain ⟨mid, hstep, hrun⟩ := Option.bind_eq_some_iff.mp h
    rw [List.cons_append, pieces, hstep, Pieces.extend_cons, ← ih hrun]

/-- Where a text ends, one empty piece is open. -/
theorem pieces_of_ends {rest : List Char} (h : Ends rest) : pieces {} rest = ⟨[[]], rest⟩ := by
  cases rest with
  | nil => rfl
  | cons c cs =>
    have hc : isCloser c = true := h c rfl
    simp only [isCloser, Bool.or_eq_true, beq_iff_eq] at hc
    rcases hc with (rfl | rfl) | rfl <;> rfl

/-- A separator is cut at each of its three characters. -/
theorem pieces_separator_append (rest : List Char) :
    pieces {} (separator ++ rest) = (pieces {} rest).cut.cut.cut := rfl

/-- Closed texts with separators between them are the pieces, up to where the
whole ends. -/
theorem pieces_intercalate {texts : List (List Char)} (hne : texts ≠ [])
    (hclosed : ∀ cs ∈ texts, cs ≠ [] ∧ isClosed cs = true) {rest : List Char} (h : Ends rest) :
    (pieces {} (separator.intercalate texts ++ rest)).nonempty = ⟨texts, rest⟩ := by
  induction texts with
  | nil => exact absurd rfl hne
  | cons cs texts ih =>
    obtain ⟨⟨hcs, hrun⟩, htexts⟩ := List.forall_mem_cons.mp hclosed
    rw [isClosed_iff] at hrun
    cases texts with
    | nil =>
      rw [List.intercalate_singleton, pieces_append hrun, pieces_of_ends h]
      simp [Pieces.extend, Pieces.nonempty, hcs]
    | cons next texts =>
      have hrest := ih (List.cons_ne_nil _ _) htexts
      rw [List.intercalate_cons_cons, List.append_assoc, List.append_assoc, pieces_append hrun,
        pieces_separator_append, Pieces.nonempty_extend_cut hcs, Pieces.nonempty_cut,
        Pieces.nonempty_cut, hrest]

/-- An atom is a piece: it is closed, and there is something of it. -/
theorem ne_nil_and_isClosed_of_isAtom {cs : List Char} (h : isAtom cs = true) :
    cs ≠ [] ∧ isClosed cs = true := by
  obtain ⟨hhead, hclosed⟩ := Bool.and_eq_true_iff.mp h
  refine ⟨?_, hclosed⟩
  rintro rfl
  cases hhead

/-- Atoms with bars between them are read. -/
theorem alternativesOf_intercalate {texts : List (List Char)} (hne : texts ≠ [])
    (h : ∀ cs ∈ texts, isAtom cs = true) :
    alternativesOf (separator.intercalate texts) = ⟨texts, []⟩ := by
  have hends : Ends [] := nofun
  have hpieces := pieces_intercalate hne (fun cs hcs => ne_nil_and_isClosed_of_isAtom (h cs hcs))
    hends
  rw [List.append_nil] at hpieces
  -- the first atom does not start with a parenthesis
  obtain ⟨first, texts, rfl⟩ := List.exists_cons_of_ne_nil hne
  obtain ⟨cs, hfirst⟩ := Atom.text_eq_cons ⟨first, h first List.mem_cons_self⟩
  obtain rfl : first = '@' :: cs := hfirst
  cases texts with
  | nil => exact hpieces
  | cons next texts => exact hpieces

/-- And so they are in parentheses, whatever comes after these. -/
theorem alternativesOf_parenthesized {texts : List (List Char)} (hne : texts ≠ [])
    (h : ∀ cs ∈ texts, isAtom cs = true) (rest : List Char) :
    alternativesOf ('(' :: (separator.intercalate texts ++ ')' :: rest))
      = ⟨texts, ')' :: rest⟩ := by
  have hends : Ends (')' :: rest) := by
    rintro c ⟨⟩
    decide
  exact pieces_intercalate hne (fun cs hcs => ne_nil_and_isClosed_of_isAtom (h cs hcs)) hends

end SearchQuery.Syntax
