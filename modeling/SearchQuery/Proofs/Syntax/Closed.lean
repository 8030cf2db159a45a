import SearchQuery.Text.Blank

/-!
# Closed strings

A string is CLOSED when the engine reads it as one piece whatever stands
around it. One scan from left to right decides it:

- a backslash takes the character after it along, whatever that is;
- `( )` and `{ }` nest, so a closing delimiter has to match the innermost
  open one;
- `[ ]` and `" "` are regions: up to its own end, every other delimiter in
  a region is inert;
- outside all delimiters no white space and no `|` may stand.

The state of the scan is the list of closing delimiters that are due. A
closed string that begins with `@` is an ATOM.

## What is proved

`Atom.append_inj` — atoms are a prefix code in the places where operands
end: of two atoms that stand at the head of one text, each followed by
something that no closed string goes on with (`Halts`), neither is the
longer. Everything that is read back from a query string rests on it.
-/

namespace SearchQuery.Syntax

/-! ## The scan -/

/-- Where a scan of a query string stands. -/
structure Scan where
  /-- The closing delimiters that are due, innermost first. -/
  due : List Char := []
  /-- A backslash came last and takes the next character along. -/
  escaped : Bool := false
deriving DecidableEq

/-- The closing delimiter that an opening one asks for. -/
def closerOf? : Char → Option Char
  | '(' => some ')'
  | '{' => some '}'
  | '[' => some ']'
  | '"' => some '"'
  | _ => none

/-- A character that can only close. -/
def isCloser (c : Char) : Bool := c == ')' || c == '}' || c == ']'

/-- A character that ends a piece outside all delimiters. -/
def isSeparator (c : Char) : Bool := Text.isSpace c || c == '|'

namespace Scan

/-- The innermost open delimiter is a region's. -/
def inRegion (s : Scan) : Bool := s.due.head? == some ']' || s.due.head? == some '"'

/-- One character of the scan; nothing comes of a delimiter that is closed
and not open, nor of a separator outside all delimiters. -/
def step (s : Scan) (c : Char) : Option Scan :=
  if s.escaped then some { s with escaped := false }
  else if c == '\\' then some { s with escaped := true }
  else if s.due.head? == some c then some { s with due := s.due.tail }
  else if s.inRegion then some s
  else
    match closerOf? c with
    | some closer => some { s with due := closer :: s.due }
    | none => if isCloser c || (s.due.isEmpty && isSeparator c) then none else some s

/-- The scan of a text. -/
def run (s : Scan) (cs : List Char) : Option Scan := cs.foldlM step s

end Scan

/-- The text is read as one piece: the scan ends outside every delimiter
and not on a lone backslash. -/
def isClosed (cs : List Char) : Bool := Scan.run {} cs == some {}

/-- A closed text that begins with the sign of a field. -/
def isAtom (cs : List Char) : Bool := cs.head? == some '@' && isClosed cs

namespace Scan

/-! ## Small laws of the scan -/

@[simp] theorem run_nil (s : Scan) : s.run [] = some s := rfl

@[simp] theorem run_cons (s : Scan) (c : Char) (cs : List Char) :
    s.run (c :: cs) = (s.step c).bind fun s' => s'.run cs := rfl

/-- A text is scanned part by part. -/
@[simp] theorem run_append (s : Scan) (cs ds : List Char) :
    s.run (cs ++ ds) = (s.run cs).bind fun s' => s'.run ds := List.foldlM_append

/-- A backslash and the character after it leave the scan where it was. -/
theorem run_pair {s : Scan} (h : s.escaped = false) (c : Char) (cs : List Char) :
    s.run ('\\' :: c :: cs) = s.run cs := by
  cases s
  cases h
  rfl

end Scan

/-! ## Where closed strings end -/

/-- No closed string goes on with this text. -/
def Halts (cs : List Char) : Prop := ∀ c ∈ cs.head?, Scan.step {} c = none

/-- Nothing goes on at the end of a text. -/
theorem halts_nil : Halts [] := by
  intro c hc
  cases hc

/-- A closed text ends before a character that nothing begins with. -/
theorem halts_cons {c : Char} {cs : List Char} (h : Scan.step {} c = none) : Halts (c :: cs) := by
  intro d hd
  cases hd
  exact h

/-- A closed text ends before a parenthesis that closes what is around it. -/
theorem halts_paren (cs : List Char) : Halts (')' :: cs) := halts_cons (by decide)

/-- A closed text ends before a space, which stands between operands. -/
theorem halts_space (cs : List Char) : Halts (' ' :: cs) := halts_cons (by decide)

/-- A closed text is scanned from outside to outside. -/
theorem isClosed_iff {cs : List Char} : isClosed cs = true ↔ Scan.run {} cs = some {} := beq_iff_eq

/-- A closed text is not the beginning of a longer one that goes on where
texts halt. -/
theorem eq_nil_of_isClosed_append {cs ds rest : List Char} (hcs : isClosed cs = true)
    (hboth : isClosed (cs ++ ds) = true) (hhalts : Halts (ds ++ rest)) : ds = [] := by
  cases ds with
  | nil => rfl
  | cons d ds =>
    have hstep : Scan.step {} d = none := hhalts d rfl
    rw [isClosed_iff, Scan.run_append, isClosed_iff.mp hcs] at hboth
    simp only [Option.bind_some, Scan.run_cons, hstep, Option.bind_none, reduceCtorEq] at hboth

/-- Of two closed texts at the head of one text, both ending where texts
halt, neither is the longer. -/
theorem isClosed_append_inj {cs ds rest rest' : List Char} (hcs : isClosed cs = true)
    (hds : isClosed ds = true) (hrest : Halts rest) (hrest' : Halts rest')
    (h : cs ++ rest = ds ++ rest') : cs = ds ∧ rest = rest' := by
  rcases List.append_eq_append_iff.mp h with ⟨more, rfl, rfl⟩ | ⟨more, rfl, rfl⟩
  · obtain rfl := eq_nil_of_isClosed_append hcs hds hrest
    exact ⟨(List.append_nil cs).symm, rfl⟩
  · obtain rfl := eq_nil_of_isClosed_append hds hcs hrest'
    exact ⟨List.append_nil ds, rfl⟩

/-! ## Atoms -/

/-- A closed text that begins with the sign of a field. -/
structure Atom where
  text : List Char
  isAtom_text : isAtom text = true

namespace Atom

/-- An atom is closed. -/
theorem isClosed_text (a : Atom) : isClosed a.text = true :=
  (Bool.and_eq_true_iff.mp a.isAtom_text).2

/-- An atom begins with the sign of a reference. -/
theorem text_eq_cons (a : Atom) : ∃ cs, a.text = '@' :: cs := by
  have hhead : a.text.head? = some '@' := by
    simpa only [beq_iff_eq] using (Bool.and_eq_true_iff.mp a.isAtom_text).1
  exact List.head?_eq_some_iff.mp hhead

/-- Atoms of one text are one atom. -/
@[ext] theorem ext {a b : Atom} (h : a.text = b.text) : a = b := by
  cases a
  cases b
  cases h
  rfl

/-- Atoms are a prefix code in the places where operands end. -/
theorem append_inj {a b : Atom} {rest rest' : List Char} (hrest : Halts rest)
    (hrest' : Halts rest') (h : a.text ++ rest = b.text ++ rest') : a = b ∧ rest = rest' := by
  obtain ⟨htext, hrests⟩ :=
    isClosed_append_inj a.isClosed_text b.isClosed_text hrest hrest' h
  exact ⟨Atom.ext htext, hrests⟩

end Atom

end SearchQuery.Syntax
