import SearchQuery.Proofs.Syntax.Closed

/-!
# Readings of a query string

The grammar of the conditions a query is restricted by:

    operand ::= `*` | `-` operand | atom | `(` operand `)`
              | `(` operand ` ` operand … `)`
              | `(` operand ` | ` operand … `)`

A `Reading` is a parse tree of an operand, so a tree is well formed by
being one: its atoms carry their proof, and a joined group has two
operands at least. `Reading.text` is what a reading is a reading of, and
`Reading.holds` is its truth under an assignment to the atoms.

## What is proved

`Reading.text_injective` — no text has two readings. The induction is on
the first tree and needs the stronger `Reading.text_append_inj`: two
readings at the head of one text, each followed by something that halts,
are one reading and end at one place. It holds of atoms (`Atom.append_inj`),
and every other production announces itself by its first character.
-/

namespace SearchQuery.Syntax

/-- How the operands of a group are joined. -/
inductive Joint where
  | conj
  | disj
deriving DecidableEq

namespace Joint

/-- What stands between two operands. -/
def text : Joint → List Char
  | conj => [' ']
  | disj => [' ', '|', ' ']

/-- The truth of a group whose operands have these truths. -/
def holds : Joint → List Bool → Bool
  | conj, truths => truths.all id
  | disj, truths => truths.any id

end Joint

/-- A parse tree of an operand. -/
inductive Reading where
  | everything
  | minus (operand : Reading)
  | atom (a : Atom)
  | group (operand : Reading)
  | joined (joint : Joint) (first second : Reading) (rest : List Reading)

namespace Reading

mutual

/-- The text that a reading is a reading of. -/
def text : Reading → List Char
  | everything => ['*']
  | minus operand => '-' :: operand.text
  | atom a => a.text
  | group operand => '(' :: (operand.text ++ [')'])
  | joined joint first second rest =>
    '(' :: (first.text ++ (joint.text ++ (second.text ++ (textAfter joint rest ++ [')']))))

/-- The texts of further operands, each behind its joint. -/
def textAfter (joint : Joint) : List Reading → List Char
  | [] => []
  | operand :: rest => joint.text ++ (operand.text ++ textAfter joint rest)

end

mutual

/-- The truth of a reading under an assignment to the atoms. -/
def holds (v : List Char → Bool) : Reading → Bool
  | everything => true
  | minus operand => !operand.holds v
  | atom a => v a.text
  | group operand => operand.holds v
  | joined joint first second rest =>
    joint.holds (first.holds v :: second.holds v :: holdsEach v rest)

/-- The truth of each of some readings. -/
def holdsEach (v : List Char → Bool) : List Reading → List Bool
  | [] => []
  | operand :: rest => operand.holds v :: holdsEach v rest

end

@[simp] theorem holdsEach_eq_map (v : List Char → Bool) (rs : List Reading) :
    holdsEach v rs = rs.map (holds v) := by
  induction rs with
  | nil => rfl
  | cons r rs ih => rw [holdsEach, ih, List.map_cons]

/-! ## The first character -/

/-- The character by which a production announces itself. -/
def lead : Reading → Char
  | everything => '*'
  | minus _ => '-'
  | atom _ => '@'
  | group _ => '('
  | joined .. => '('

theorem text_eq_lead (r : Reading) : ∃ cs, r.text = r.lead :: cs := by
  cases r with
  | atom a => exact a.text_eq_cons
  | everything => exact ⟨_, rfl⟩
  | minus operand => exact ⟨_, rfl⟩
  | group operand => exact ⟨_, rfl⟩
  | joined joint first second rest => exact ⟨_, rfl⟩

theorem lead_ne_bar (r : Reading) : r.lead ≠ '|' := by
  cases r <;> simp only [lead, ne_eq, Char.reduceEq, not_false_eq_true]

/-- Two readings at the head of one text announce themselves alike. -/
theorem lead_eq_of_text_append {r r' : Reading} {cs cs' : List Char}
    (h : r.text ++ cs = r'.text ++ cs') : r.lead = r'.lead := by
  obtain ⟨ds, hds⟩ := r.text_eq_lead
  obtain ⟨ds', hds'⟩ := r'.text_eq_lead
  rw [hds, hds'] at h
  exact (List.cons.inj h).1

/-! ## Unique readability -/

theorem halts_joint (joint : Joint) (cs : List Char) : Halts (joint.text ++ cs) := by
  cases joint with
  | conj => exact halts_space cs
  | disj => exact halts_space ('|' :: ' ' :: cs)

theorem halts_textAfter (joint : Joint) (rs : List Reading) (cs : List Char) :
    Halts (textAfter joint rs ++ ')' :: cs) := by
  cases rs with
  | nil => exact halts_paren cs
  | cons r rs =>
    rw [textAfter, List.append_assoc]
    exact halts_joint joint _

/-- A joint before an operand is told from the other joint: no operand
begins with a bar. -/
theorem joint_append_inj {joint joint' : Joint} {r r' : Reading} {cs cs' : List Char}
    (h : joint.text ++ (r.text ++ cs) = joint'.text ++ (r'.text ++ cs')) :
    joint = joint' ∧ r.text ++ cs = r'.text ++ cs' := by
  obtain ⟨ds, hds⟩ := r.text_eq_lead
  obtain ⟨ds', hds'⟩ := r'.text_eq_lead
  have hbar : ∀ (s : Reading) (es fs : List Char),
      ' ' :: (s.lead :: es) ≠ ' ' :: '|' :: ' ' :: fs := by
    intro s es fs heq
    simp only [List.cons.injEq] at heq
    exact s.lead_ne_bar heq.2.1
  cases joint with
  | conj =>
    cases joint' with
    | conj => exact ⟨rfl, (List.cons.inj h).2⟩
    | disj =>
      rw [hds] at h
      exact absurd h (hbar r _ _)
  | disj =>
    cases joint' with
    | conj =>
      rw [hds'] at h
      exact absurd h.symm (hbar r' _ _)
    | disj => exact ⟨rfl, List.append_cancel_left h⟩

/-- The end of a group is told from a further operand. -/
theorem joint_append_ne_paren (joint : Joint) (cs ds : List Char) :
    joint.text ++ cs ≠ ')' :: ds := by
  intro h
  cases joint <;> exact absurd (List.cons.inj h).1 (by decide)

mutual

/-- Two readings at the head of one text, each followed by something that
halts, are one reading and end at one place. -/
theorem text_append_inj : ∀ (r r' : Reading) {cs cs' : List Char}, Halts cs → Halts cs' →
    r.text ++ cs = r'.text ++ cs' → r = r' ∧ cs = cs'
  | everything, r', cs, cs', _, _, h => by
    have hlead := lead_eq_of_text_append h
    cases r' with
    | everything => exact ⟨rfl, (List.cons.inj h).2⟩
    | _ => exact absurd hlead (by simp only [lead, Char.reduceEq, not_false_eq_true])
  | minus operand, r', cs, cs', hcs, hcs', h => by
    have hlead := lead_eq_of_text_append h
    cases r' with
    | minus operand' =>
      obtain ⟨rfl, hend⟩ := text_append_inj operand operand' hcs hcs' (List.cons.inj h).2
      exact ⟨rfl, hend⟩
    | _ => exact absurd hlead (by simp only [lead, Char.reduceEq, not_false_eq_true])
  | atom a, r', cs, cs', hcs, hcs', h => by
    have hlead := lead_eq_of_text_append h
    cases r' with
    | atom b =>
      obtain ⟨rfl, hend⟩ := Atom.append_inj hcs hcs' h
      exact ⟨rfl, hend⟩
    | _ => exact absurd hlead (by simp only [lead, Char.reduceEq, not_false_eq_true])
  | group operand, r', cs, cs', _, _, h => by
    have hlead := lead_eq_of_text_append h
    cases r' with
    | group operand' =>
      simp only [text, List.cons_append, List.append_assoc, List.nil_append,
        List.cons.injEq, true_and] at h
      obtain ⟨rfl, hend⟩ := text_append_inj operand operand' (halts_paren cs) (halts_paren cs') h
      exact ⟨rfl, (List.cons.inj hend).2⟩
    | joined joint' first' second' rest' =>
      simp only [text, List.cons_append, List.append_assoc, List.nil_append,
        List.cons.injEq, true_and] at h
      obtain ⟨-, hend⟩ := text_append_inj operand first' (halts_paren cs) (halts_joint joint' _) h
      exact absurd hend.symm (joint_append_ne_paren joint' _ _)
    | _ => exact absurd hlead (by simp only [lead, Char.reduceEq, not_false_eq_true])
  | joined joint first second rest, r', cs, cs', _, _, h => by
    have hlead := lead_eq_of_text_append h
    cases r' with
    | group operand' =>
      simp only [text, List.cons_append, List.append_assoc, List.nil_append,
        List.cons.injEq, true_and] at h
      obtain ⟨-, hend⟩ := text_append_inj first operand' (halts_joint joint _) (halts_paren cs') h
      exact absurd hend (joint_append_ne_paren joint _ _)
    | joined joint' first' second' rest' =>
      simp only [text, List.cons_append, List.append_assoc, List.nil_append,
        List.cons.injEq, true_and] at h
      obtain ⟨rfl, hjoint⟩ :=
        text_append_inj first first' (halts_joint joint _) (halts_joint joint' _) h
      obtain ⟨rfl, hsecond⟩ := joint_append_inj hjoint
      obtain ⟨rfl, hrest⟩ := text_append_inj second second' (halts_textAfter joint rest cs)
        (halts_textAfter joint rest' cs') hsecond
      obtain ⟨rfl, hend⟩ := textAfter_append_inj joint rest rest' hrest
      exact ⟨rfl, hend⟩
    | _ => exact absurd hlead (by simp only [lead, Char.reduceEq, not_false_eq_true])

/-- The further operands of two groups, each up to its closing
parenthesis, are the same and end at one place. -/
theorem textAfter_append_inj (joint : Joint) : ∀ (rs rs' : List Reading) {cs cs' : List Char},
    textAfter joint rs ++ ')' :: cs = textAfter joint rs' ++ ')' :: cs' → rs = rs' ∧ cs = cs'
  | [], rs', cs, cs', h => by
    cases rs' with
    | nil => exact ⟨rfl, (List.cons.inj h).2⟩
    | cons r' rs' =>
      rw [textAfter, textAfter, List.append_assoc] at h
      exact absurd h.symm (joint_append_ne_paren joint _ _)
  | r :: rs, rs', cs, cs', h => by
    cases rs' with
    | nil =>
      rw [textAfter, textAfter, List.append_assoc] at h
      exact absurd h (joint_append_ne_paren joint _ _)
    | cons r' rs' =>
      simp only [textAfter, List.append_assoc, List.append_cancel_left_eq] at h
      obtain ⟨rfl, hrest⟩ := text_append_inj r r' (halts_textAfter joint rs cs)
        (halts_textAfter joint rs' cs') h
      obtain ⟨rfl, hend⟩ := textAfter_append_inj joint rs rs' hrest
      exact ⟨rfl, hend⟩

end

/-- No text has two readings. -/
theorem text_injective {r r' : Reading} (h : r.text = r'.text) : r = r' := by
  have happend : r.text ++ [] = r'.text ++ [] := by rw [h]
  exact (text_append_inj r r' halts_nil halts_nil happend).1

/-- Only one reading is the text of everything. -/
theorem text_eq_star {r : Reading} : r.text = ['*'] ↔ r = everything := by
  have hstar : everything.text = ['*'] := rfl
  rw [← hstar]
  exact ⟨text_injective, congrArg text⟩

end Reading

end SearchQuery.Syntax
