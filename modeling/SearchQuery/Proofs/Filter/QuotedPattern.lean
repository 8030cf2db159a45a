import SearchQuery.Filter.Text
import SearchQuery.Proofs.Accepted
import SearchQuery.Proofs.Syntax.Unescape

/-!
# Patterns between quotes

A wildcard pattern stands between single quotes. It is read up to the first
quote that is open, and every backslash that escapes is dropped, so a pattern
says something only together with its backslashes.

Of a pattern the quotes are escaped and nothing else, neither are the backslashes.
A backslash of the pattern's own therefore takes along the character that comes
after it once the pattern is written: another one of the pattern, the backslash
of a quote, which is open then, or the closing quote, which is not.

## What is proved

`Filter.pattern_reads` says for every pattern which of this happens.

- The first open quote is the last character exactly when the pattern keeps its
  quotes (`KeepsQuotes`): none of its backslashes stands before a quote or at the
  end, unless it is escaped itself.
- What is read then is the pattern with its own escapes undone, and that is the
  pattern itself exactly when it has no backslash.

So not every pattern stays between its quotes: `Filter.exists_pattern_not_isQuoted`.
-/

namespace SearchQuery

namespace Syntax

open SearchQuery.Escape

/-! ## Reading between quotes -/

/-- A text that follows an opening quote says this: its first open quote ends
it, and the characters before are what it stands for. -/
def IsQuoted (said cs : List Char) : Prop :=
  ∃ inside, signs cs = inside ++ [.opened '\''] ∧ .opened '\'' ∉ inside ∧
    inside.map Sign.char = said

/-- No backslash takes along a quote, and none is left without a character to
take along. -/
def KeepsQuotes (cs : List Char) : Prop := ⟨'\'', true⟩ ∉ signs cs ∧ .opened '\\' ∉ signs cs

/-- The text ends at its first open quote. -/
def EndsAtQuote (signs : List Sign) : Prop :=
  ∃ inside, signs = inside ++ [.opened '\''] ∧ .opened '\'' ∉ inside

/-- What is no open quote may stand before the last one. -/
theorem endsAtQuote_cons {sign : Sign} (h : sign ≠ .opened '\'') (rest : List Sign) :
    EndsAtQuote (sign :: rest) ↔ EndsAtQuote rest := by
  constructor
  · rintro ⟨inside, hsplit, hinside⟩
    cases inside with
    | nil =>
      cases hsplit
      exact absurd rfl h
    | cons first inside =>
      cases hsplit
      exact ⟨inside, rfl, fun hmem => hinside (List.mem_cons_of_mem _ hmem)⟩
  · rintro ⟨inside, rfl, hinside⟩
    refine ⟨sign :: inside, rfl, ?_⟩
    rw [List.mem_cons, not_or]
    exact ⟨h.symm, hinside⟩

/-- An open quote ends the text if nothing comes after it. -/
theorem endsAtQuote_quote_cons (rest : List Sign) :
    EndsAtQuote (.opened '\'' :: rest) ↔ rest = [] := by
  constructor
  · rintro ⟨inside, hsplit, hinside⟩
    cases inside with
    | nil => exact List.tail_eq_of_cons_eq hsplit
    | cons first inside =>
      cases hsplit
      exact absurd List.mem_cons_self hinside
  · rintro rfl
    exact ⟨[], rfl, List.not_mem_nil⟩

/-- A text has one end, so it says one thing. -/
theorem IsQuoted.said_eq {said said' cs : List Char} (h : IsQuoted said cs)
    (h' : IsQuoted said' cs) : said = said' := by
  obtain ⟨inside, hsigns, -, rfl⟩ := h
  obtain ⟨inside', hsigns', -, rfl⟩ := h'
  rw [hsigns] at hsigns'
  rw [List.append_cancel_right hsigns']

/-- A text is a quoted pattern when its only open quote is its last
character. -/
theorem exists_isQuoted_iff {cs : List Char} :
    (∃ said, IsQuoted said cs) ↔ EndsAtQuote (signs cs) := by
  constructor
  · rintro ⟨-, inside, hsigns, hinside, -⟩
    exact ⟨inside, hsigns, hinside⟩
  · rintro ⟨inside, hsigns, hinside⟩
    exact ⟨_, inside, hsigns, hinside, rfl⟩

/-! ## Signs of a text -/

/-- A text that is not empty has a sign. -/
theorem signs_ne_nil {cs : List Char} (h : cs ≠ []) : signs cs ≠ [] := by
  unfold signs
  split
  · exact absurd rfl h
  · exact List.cons_ne_nil _ _
  · exact List.cons_ne_nil _ _

/-- A character that is read alone is no backslash, or it ends the text. -/
theorem ne_backslash_or_eq_nil {c : Char} {cs : List Char}
    (h : ∀ (d : Char) (ds : List Char), c = '\\' → cs = d :: ds → False) :
    c ≠ '\\' ∨ c = '\\' ∧ cs = [] := by
  by_cases hc : c = '\\'
  · refine .inr ⟨hc, ?_⟩
    cases cs with
    | nil => rfl
    | cons d ds => exact absurd rfl (h d ds hc)
  · exact .inl hc

/-- A text without backslashes is read character by character. -/
theorem signs_eq_map {cs : List Char} (h : '\\' ∉ cs) : signs cs = cs.map .opened := by
  induction cs with
  | nil => rfl
  | cons c cs ih =>
    obtain ⟨hc, hcs⟩ := List.ne_and_not_mem_of_not_mem_cons h
    rw [signs_cons hc.symm, ih hcs, List.map_cons]

/-- A sign is one character or two. -/
theorem length_signs_le (cs : List Char) : (signs cs).length ≤ cs.length := by
  fun_induction signs cs with
  | case1 => exact le_rfl
  | case2 c cs ih =>
    simp only [List.length_cons]
    omega
  | case3 c cs hpair ih =>
    simp only [List.length_cons]
    omega

/-- A backslash that escapes is no sign of its own. -/
theorem length_signs_lt {cs : List Char} (hmem : '\\' ∈ cs) (hopen : .opened '\\' ∉ signs cs) :
    (signs cs).length < cs.length := by
  fun_induction signs cs with
  | case1 => cases hmem
  | case2 c cs ih =>
    have hle := length_signs_le cs
    simp only [List.length_cons]
    omega
  | case3 c cs hpair ih =>
    obtain ⟨hc, hcs⟩ := List.ne_and_not_mem_of_not_mem_cons hopen
    obtain rfl | hmem := List.mem_cons.mp hmem
    · exact absurd rfl hc
    · have hlt := ih hmem hcs
      simp only [List.length_cons]
      omega

/-- A text none of whose backslashes is open stands for itself exactly when it
has none. -/
theorem unescape_eq_self_iff {cs : List Char} (hopen : .opened '\\' ∉ signs cs) :
    unescape cs = cs ↔ '\\' ∉ cs := by
  constructor
  · intro hsame hmem
    have hlt := length_signs_lt hmem hopen
    have hlength := congrArg List.length hsame
    rw [unescape, List.length_map] at hlength
    omega
  · intro h
    rw [unescape, signs_eq_map h, List.map_map]
    exact List.map_id cs

/-! ## Escaped quotes -/

/-- A text with a backslash before each of its quotes. -/
def escapeQuotes (cs : List Char) : List Char := escapeChars (· == '\'') cs

/-- A quote gets a backslash before it. -/
theorem escapeQuotes_quote_cons (cs : List Char) :
    escapeQuotes ('\'' :: cs) = '\\' :: '\'' :: escapeQuotes cs :=
  escapeChars_cons_of_pos rfl cs

/-- Any other character stays as it is, a backslash among them. -/
theorem escapeQuotes_cons {c : Char} (h : c ≠ '\'') (cs : List Char) :
    escapeQuotes (c :: cs) = c :: escapeQuotes cs := by
  have hc : (c == '\'') = false := beq_eq_false_iff_ne.mpr h
  exact escapeChars_cons_of_neg (p := (· == '\'')) hc cs

/-- The sign that a character is once the quotes are escaped. -/
def Sign.escapeQuote (sign : Sign) : Sign :=
  if sign.char = '\'' then ⟨'\'', true⟩ else sign

/-- Behind its backslash no quote is open. -/
theorem Sign.escapeQuote_ne (sign : Sign) : sign.escapeQuote ≠ .opened '\'' := by
  unfold escapeQuote
  split
  · simp [opened]
  · next hquote => exact fun h => hquote (congrArg Sign.char h)

/-- A quote keeps its character when it is escaped. -/
theorem Sign.char_escapeQuote (sign : Sign) : sign.escapeQuote.char = sign.char := by
  unfold escapeQuote
  split
  · next hquote => exact hquote.symm
  · rfl

/-- A backslash takes along the character that it took along before. -/
theorem signs_escapeQuotes_pair {c : Char} (h : c ≠ '\'') (cs rest : List Char) :
    signs (escapeQuotes ('\\' :: c :: cs) ++ rest) = ⟨c, true⟩ :: signs (escapeQuotes cs ++ rest) := by
  rw [escapeQuotes_cons (by decide), escapeQuotes_cons h, List.cons_append, List.cons_append,
    signs_pair]

/-- It takes along the backslash that a quote is given, and leaves the quote open. -/
theorem signs_escapeQuotes_pair_quote (cs rest : List Char) :
    signs (escapeQuotes ('\\' :: '\'' :: cs) ++ rest)
      = ⟨'\\', true⟩ :: .opened '\'' :: signs (escapeQuotes cs ++ rest) := by
  rw [escapeQuotes_cons (by decide), escapeQuotes_quote_cons, List.cons_append, List.cons_append,
    List.cons_append, signs_pair, signs_cons (by decide)]

/-- Any other character stays as open as it was, unless it is a quote. -/
theorem signs_escapeQuotes_cons {c : Char} (h : c ≠ '\\') (cs rest : List Char) :
    signs (escapeQuotes (c :: cs) ++ rest)
      = (Sign.opened c).escapeQuote :: signs (escapeQuotes cs ++ rest) := by
  by_cases hquote : c = '\''
  · subst hquote
    rw [escapeQuotes_quote_cons, List.cons_append, List.cons_append, signs_pair]
    rfl
  · have hsign : (Sign.opened c).escapeQuote = .opened c := if_neg hquote
    rw [escapeQuotes_cons hquote, List.cons_append, signs_cons h, hsign]

/-- A sign that is neither an escaped quote nor an open backslash has no say in
whether the quotes are kept. -/
theorem keepsQuotes_cons {sign : Sign} {cs ds : List Char} (hsigns : signs cs = sign :: signs ds)
    (hquote : sign ≠ ⟨'\'', true⟩) (hbackslash : sign ≠ .opened '\\') :
    KeepsQuotes cs ↔ KeepsQuotes ds := by
  simp only [KeepsQuotes, hsigns, List.mem_cons, not_or, hquote.symm, hbackslash.symm,
    not_false_eq_true, true_and]

/-- **The closing quote is the first open one exactly when the text keeps its
quotes.** The induction is on the pairs of a backslash and the character after it. -/
theorem endsAtQuote_iff (cs : List Char) :
    EndsAtQuote (signs (escapeQuotes cs ++ ['\''])) ↔ KeepsQuotes cs := by
  fun_induction signs cs with
  | case1 => exact iff_of_true ((endsAtQuote_quote_cons []).mpr rfl) (by simp [KeepsQuotes, signs])
  | case2 c cs ih =>
    by_cases hquote : c = '\''
    · subst hquote
      -- the text goes on behind the quote that is open now
      have hmore : signs (escapeQuotes cs ++ ['\'']) ≠ [] :=
        signs_ne_nil (List.append_ne_nil_of_right_ne_nil _ (List.cons_ne_nil _ _))
      rw [signs_escapeQuotes_pair_quote, endsAtQuote_cons (by simp [Sign.opened]),
        endsAtQuote_quote_cons]
      refine iff_of_false hmore ?_
      rintro ⟨hnot, -⟩
      rw [signs_pair] at hnot
      exact hnot List.mem_cons_self
    · rw [signs_escapeQuotes_pair hquote, endsAtQuote_cons (by simp [Sign.opened]), ih,
        keepsQuotes_cons (signs_pair c cs) (by simpa using hquote) (by simp [Sign.opened])]
  | case3 c cs hpair ih =>
    obtain hc | ⟨rfl, rfl⟩ := ne_backslash_or_eq_nil hpair
    · rw [signs_escapeQuotes_cons hc, endsAtQuote_cons (Sign.escapeQuote_ne _), ih,
        keepsQuotes_cons (signs_cons hc cs) (by simp [Sign.opened]) (by simpa [Sign.opened] using hc)]
    · -- the last backslash takes the closing quote along
      have hsigns : signs (escapeQuotes ['\\'] ++ ['\'']) = [⟨'\'', true⟩] := rfl
      have hnil : ¬EndsAtQuote [] := by
        rintro ⟨inside, hsplit, -⟩
        exact absurd hsplit.symm (by simp)
      rw [hsigns, endsAtQuote_cons (by simp [Sign.opened])]
      refine iff_of_false hnil ?_
      rintro ⟨-, hnot⟩
      exact hnot List.mem_cons_self

/-- A text that keeps its quotes is read as it was, with its quotes escaped. -/
theorem signs_escapeQuotes_append {cs : List Char} (h : KeepsQuotes cs) (rest : List Char) :
    signs (escapeQuotes cs ++ rest) = (signs cs).map Sign.escapeQuote ++ signs rest := by
  fun_induction signs cs with
  | case1 => rfl
  | case2 c cs ih =>
    have hquote : c ≠ '\'' := by
      rintro rfl
      exact h.1 (signs_pair '\'' cs ▸ List.mem_cons_self)
    have htail := (keepsQuotes_cons (signs_pair c cs) (by simpa using hquote)
      (by simp [Sign.opened])).mp h
    rw [signs_escapeQuotes_pair hquote, ih htail, List.map_cons, List.cons_append,
      Sign.escapeQuote, if_neg hquote]
  | case3 c cs hpair ih =>
    obtain hc | ⟨rfl, rfl⟩ := ne_backslash_or_eq_nil hpair
    · have htail := (keepsQuotes_cons (signs_cons hc cs) (by simp [Sign.opened])
        (by simpa [Sign.opened] using hc)).mp h
      rw [signs_escapeQuotes_cons hc, ih htail, List.map_cons, List.cons_append]
    · exact absurd List.mem_cons_self h.2

/-- What is read of a text that keeps its quotes has the text's own escapes undone. -/
theorem isQuoted_escapeQuotes {cs : List Char} (h : KeepsQuotes cs) :
    IsQuoted (unescape cs) (escapeQuotes cs ++ ['\'']) := by
  refine ⟨(signs cs).map Sign.escapeQuote, signs_escapeQuotes_append h _, ?_, ?_⟩
  · intro hmem
    obtain ⟨sign, -, hsign⟩ := List.mem_map.mp hmem
    exact sign.escapeQuote_ne hsign
  · rw [List.map_map, unescape]
    exact List.map_congr_left fun sign _ => sign.char_escapeQuote

/-- A pattern is said again as it was given exactly when it has no backslash. -/
theorem isQuoted_escapeQuotes_iff (cs : List Char) :
    IsQuoted cs (escapeQuotes cs ++ ['\'']) ↔ '\\' ∉ cs := by
  constructor
  · intro h
    have hkeeps : KeepsQuotes cs := (endsAtQuote_iff cs).mp (exists_isQuoted_iff.mp ⟨cs, h⟩)
    exact (unescape_eq_self_iff hkeeps.2).mp ((isQuoted_escapeQuotes hkeeps).said_eq h)
  · intro h
    have hsigns := signs_eq_map h
    have hkeeps : KeepsQuotes cs := by
      rw [KeepsQuotes, hsigns]
      constructor
      · intro hmem
        obtain ⟨c, -, hc⟩ := List.mem_map.mp hmem
        cases congrArg Sign.escaped hc
      · intro hmem
        obtain ⟨c, hmem, hc⟩ := List.mem_map.mp hmem
        obtain rfl : c = '\\' := congrArg Sign.char hc
        exact h hmem
    have hsaid := (unescape_eq_self_iff hkeeps.2).mpr h
    have hquoted := isQuoted_escapeQuotes hkeeps
    rwa [hsaid] at hquoted

end Syntax

/-! ## Wildcard patterns -/

namespace Filter

open SearchQuery.Syntax

/-- A pattern that is not blank is accepted, and stands between quotes without the
white space around it. -/
theorem pattern_eq_ok {field value : String} (hfield : Text.isBlank field = false)
    (hvalue : Text.isBlank value = false) :
    pattern field value = .ok (textLeaf field ("@" ++ Escape.field field ++ ":w'"
      ++ (String.ofList (escapeQuotes (Text.trim value).toList) ++ "'"))) := by
  have hexpression : "@" ++ Escape.field field ++ ":w" ++ quotePattern (Text.trim value)
      = "@" ++ Escape.field field ++ ":w'"
        ++ (String.ofList (escapeQuotes (Text.trim value).toList) ++ "'") := by
    simp only [← String.toList_inj, quotePattern, String.toList_append, List.append_assoc]
    rfl
  rw [← hexpression]
  exact bind_eq_ok.mpr ⟨_, fieldRef_eq_ok hfield, bind_eq_ok.mpr ⟨_, required_eq_ok hvalue, rfl⟩⟩

/-- **What a pattern between its quotes is read as**, for every field that has a
name and every pattern that is not blank. -/
theorem pattern_reads (field : String) (hfield : Text.isBlank field = false) (value : String)
    (hvalue : Text.isBlank value = false) :
    ∃ quoted : String,
      pattern field value
        = .ok (textLeaf field ("@" ++ Escape.field field ++ ":w'" ++ quoted)) ∧
      ((∃ said, IsQuoted said quoted.toList) ↔ KeepsQuotes (Text.trim value).toList) ∧
      (∀ said, IsQuoted said quoted.toList → said = unescape (Text.trim value).toList) ∧
      (IsQuoted (Text.trim value).toList quoted.toList ↔ '\\' ∉ (Text.trim value).toList) := by
  refine ⟨_, pattern_eq_ok hfield hvalue, ?_⟩
  rw [String.toList_append, String.toList_ofList]
  refine ⟨exists_isQuoted_iff.trans (endsAtQuote_iff _), ?_, isQuoted_escapeQuotes_iff _⟩
  intro said hsaid
  have hkeeps := (endsAtQuote_iff _).mp (exists_isQuoted_iff.mp ⟨said, hsaid⟩)
  exact hsaid.said_eq (isQuoted_escapeQuotes hkeeps)

/-- A quote is safe and a backslash that escapes a backslash is too, but neither
pair stands for itself. -/
theorem pattern_reads_kept :
    Text.isBlank "name" = false ∧ Text.isBlank "it's\\\\'" = false ∧
      ∃ quoted : String,
        pattern "name" "it's\\\\'"
          = .ok (textLeaf "name" ("@" ++ Escape.field "name" ++ ":w'" ++ quoted)) ∧
        (∃ said, IsQuoted said quoted.toList) ∧ ¬IsQuoted "it's\\\\'".toList quoted.toList := by
  have hfield : Text.isBlank "name" = false := by decide
  have hvalue : Text.isBlank "it's\\\\'" = false := by decide
  have htrim : Text.trim "it's\\\\'" = "it's\\\\'" := by decide
  obtain ⟨quoted, hquoted, hkeeps, -, hself⟩ := pattern_reads "name" hfield _ hvalue
  rw [htrim] at hkeeps hself
  refine ⟨hfield, hvalue, quoted, hquoted, hkeeps.mpr ?_, hself.not.mpr ?_⟩
  · simp [KeepsQuotes, signs, Sign.opened]
  · decide

/-- Not every pattern is read as it was given: a backslash before a quote leaves
that quote open, and the literal ends there. -/
theorem exists_pattern_not_isQuoted :
    ¬∀ field value : String, Text.isBlank field = false → Text.isBlank value = false →
      ∃ quoted : String,
        pattern field value
          = .ok (textLeaf field ("@" ++ Escape.field field ++ ":w'" ++ quoted)) ∧
        IsQuoted (Text.trim value).toList quoted.toList := by
  intro hall
  have hfield : Text.isBlank "name" = false := by decide
  have hvalue : Text.isBlank "\\'" = false := by decide
  have htrim : Text.trim "\\'" = "\\'" := by decide
  obtain ⟨quoted, hok, hquoted⟩ := hall "name" "\\'" hfield hvalue
  have hsame := hok.symm.trans (pattern_eq_ok hfield hvalue)
  injection hsame with hleaf
  injection hleaf with hleaf
  injection hleaf with _ _ hexpression
  obtain rfl := String.append_right_inj _ |>.mp hexpression
  rw [String.toList_append, String.toList_ofList, htrim] at hquoted
  exact (isQuoted_escapeQuotes_iff _).mp hquoted (by decide)

end Filter

end SearchQuery
