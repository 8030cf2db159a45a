import SearchQuery.Proofs.Escape

/-!
# Alternatives

A list of alternatives stands between parentheses, with ` | ` from one to
the next. Whoever reads it goes by signs: a character that stands behind a
backslash is taken as it is, and any other is OPEN and means what it means
in the syntax.

## What is proved

Words that are escaped and then joined are read back (`isListOf_joined`),
whatever characters they are made of and whatever follows the list:
no word closes the parenthesis, splits in two or runs into the next. The
reason is the same each time. All that a word leaves open is not special,
and the characters that close and separate are.
-/

namespace SearchQuery.Syntax

open SearchQuery.Escape

/-! ## Signs -/

/-- A character as it is read. -/
structure Sign where
  char : Char
  escaped : Bool
deriving DecidableEq

namespace Sign

/-- A character without a backslash before it. -/
def opened (c : Char) : Sign := ⟨c, false⟩

/-- A character as an escaped text has it. -/
def ofChar (p : Char → Bool) (c : Char) : Sign := ⟨c, p c⟩

/-- The sign means something in the syntax. -/
def IsMark (sign : Sign) : Prop := isSpecial sign.char = true ∧ sign.escaped = false

end Sign

/-- The signs of a text. A backslash covers the one character after it,
whatever that is. -/
def signs : List Char → List Sign
  | [] => []
  | '\\' :: c :: cs => ⟨c, true⟩ :: signs cs
  | c :: cs => .opened c :: signs cs

/-- The signs up to the first open parenthesis that closes. -/
def enclosed (signs : List Sign) : List Sign := signs.takeWhile (· ≠ .opened ')')

/-- The signs between the separators, which are open. -/
def alternatives : List Sign → List (List Sign)
  | [] => [[]]
  | ⟨' ', false⟩ :: ⟨'|', false⟩ :: ⟨' ', false⟩ :: rest => [] :: alternatives rest
  | sign :: rest => (alternatives rest).modifyHead (sign :: ·)

/-- What a list of alternatives carries. -/
structure IsListOf (words : List (List Char)) (list : List Char) : Prop where
  /-- The list ends at the first open parenthesis, whatever comes after it. -/
  enclosed_signs : ∀ rest, enclosed (signs (list ++ ')' :: rest)) = signs list
  /-- The separators are all that it leaves open of the syntax. -/
  not_isMark : ∀ part ∈ alternatives (signs list), ∀ sign ∈ part, ¬sign.IsMark
  /-- The parts without their backslashes are the words. -/
  map_char : (alternatives (signs list)).map (List.map Sign.char) = words

/-! ## Signs of escaped texts -/

theorem signs_pair (c : Char) (cs : List Char) :
    signs ('\\' :: c :: cs) = ⟨c, true⟩ :: signs cs := by
  rw [signs]

theorem signs_cons {c : Char} (h : c ≠ '\\') (cs : List Char) :
    signs (c :: cs) = .opened c :: signs cs := by
  rw [signs]
  exact fun _ _ hc _ => h hc

/-- Each character of an escaped text is one sign. -/
theorem signs_escapeChars_append {p : Char → Bool} (hp : p '\\' = true) (cs ds : List Char) :
    signs (escapeChars p cs ++ ds) = cs.map (Sign.ofChar p) ++ signs ds := by
  induction cs with
  | nil => rfl
  | cons c cs ih =>
    cases hc : p c with
    | true =>
      rw [escapeChars_cons_of_pos hc, List.cons_append, List.cons_append, signs_pair, ih,
        List.map_cons, Sign.ofChar, hc, List.cons_append]
    | false =>
      have hne : c ≠ '\\' := by
        rintro rfl
        rw [hp] at hc
        cases hc
      rw [escapeChars_cons_of_neg hc, List.cons_append, signs_cons hne, ih, List.map_cons,
        Sign.ofChar, hc, List.cons_append]
      rfl

/-- What stands between two alternatives. -/
def separator : List Char := [' ', '|', ' ']

/-- The separator as it is read. -/
def separatorSigns : List Sign := separator.map .opened

theorem signs_separator_append (cs : List Char) :
    signs (separator ++ cs) = separatorSigns ++ signs cs := rfl

/-- The signs of parts that are escaped and then joined are those of the parts,
joined, when what stands between them is open. -/
theorem signs_intercalate_append {p : Char → Bool} (hp : p '\\' = true) {between : List Char}
    (hbetween : ∀ rest, signs (between ++ rest) = between.map .opened ++ signs rest)
    (parts : List (List Char)) (rest : List Char) :
    signs (between.intercalate (parts.map (escapeChars p)) ++ rest)
      = (between.map Sign.opened).intercalate (parts.map (List.map (Sign.ofChar p)))
        ++ signs rest := by
  induction parts with
  | nil => rfl
  | cons part parts ih =>
    cases parts with
    | nil =>
      simp only [List.map_cons, List.map_nil, List.intercalate_singleton]
      rw [signs_escapeChars_append hp]
    | cons next parts =>
      simp only [List.map_cons] at ih ⊢
      rw [List.intercalate_cons_cons, List.append_assoc, List.append_assoc,
        signs_escapeChars_append hp, hbetween, ih, List.intercalate_cons_cons, List.append_assoc,
        List.append_assoc]

/-- The signs of joined words are those of the words, joined. -/
theorem signs_joined_append (words : List (List Char)) (rest : List Char) :
    signs (separator.intercalate (words.map (escapeChars isSpecial)) ++ rest)
      = separatorSigns.intercalate (words.map (List.map (Sign.ofChar isSpecial)))
        ++ signs rest :=
  signs_intercalate_append isSpecial_backslash signs_separator_append words rest

theorem signs_joined (words : List (List Char)) :
    signs (separator.intercalate (words.map (escapeChars isSpecial)))
      = separatorSigns.intercalate (words.map (List.map (Sign.ofChar isSpecial))) := by
  have hjoined := signs_joined_append words []
  rwa [List.append_nil, signs, List.append_nil] at hjoined

/-! ## Marks -/

/-- What an escaped text leaves open is outside the class. -/
theorem Sign.escaped_of_mem_map {p : Char → Bool} {word : List Char} {sign : Sign}
    (h : sign ∈ word.map (Sign.ofChar p)) : sign.escaped = p sign.char := by
  obtain ⟨c, -, rfl⟩ := List.mem_map.mp h
  rfl

/-- A word leaves no special character open. -/
theorem not_isMark_of_mem_map {word : List Char} {sign : Sign}
    (h : sign ∈ word.map (Sign.ofChar isSpecial)) : ¬sign.IsMark := by
  rintro ⟨hspecial, hopen⟩
  rw [Sign.escaped_of_mem_map h, hspecial] at hopen
  cases hopen

/-- An open special character is none of the signs without meaning. -/
theorem Sign.ne_opened_of_not_isMark {sign : Sign} {c : Char} (hc : isSpecial c = true)
    (h : ¬sign.IsMark) : sign ≠ .opened c := by
  rintro rfl
  exact h ⟨hc, rfl⟩

/-- What holds of the separator and of every part holds of the parts joined. -/
theorem forall_mem_intercalate {α : Type} {p : α → Prop} {between : List α}
    (hbetween : ∀ a ∈ between, p a) {parts : List (List α)}
    (hparts : ∀ part ∈ parts, ∀ a ∈ part, p a) : ∀ a ∈ between.intercalate parts, p a := by
  induction parts with
  | nil =>
    intro a ha
    cases ha
  | cons part parts ih =>
    obtain ⟨hpart, hrest⟩ := List.forall_mem_cons.mp hparts
    cases parts with
    | nil => rwa [List.intercalate_singleton]
    | cons next parts =>
      rw [List.intercalate_cons_cons, List.forall_mem_append, List.forall_mem_append]
      exact ⟨⟨hpart, hbetween⟩, ih hrest⟩

/-! ## The end of a list -/

/-- What comes before the first of its kind is taken while others come. -/
theorem takeWhile_ne_append_cons {α : Type} [DecidableEq α] {a : α} {before : List α}
    (h : ∀ b ∈ before, b ≠ a) (after : List α) :
    (before ++ a :: after).takeWhile (fun b => decide (b ≠ a)) = before := by
  have hbefore : ∀ b ∈ before, decide (b ≠ a) = true := fun b hb => decide_eq_true (h b hb)
  rw [List.takeWhile_append_of_pos hbefore, List.takeWhile_cons_of_neg (by simp), List.append_nil]

/-- A text that closes nothing goes on to the next parenthesis that closes. -/
theorem enclosed_append_close {before : List Sign} (h : ∀ sign ∈ before, sign ≠ .opened ')')
    (after : List Sign) : enclosed (before ++ .opened ')' :: after) = before :=
  takeWhile_ne_append_cons h after

/-! ## The parts of a list -/

/-- A sign that starts no separator belongs to the part that it stands
before. -/
theorem alternatives_cons {rest : List Sign} (h : rest.head? ≠ some (.opened '|')) (sign : Sign) :
    alternatives (sign :: rest) = (alternatives rest).modifyHead (sign :: ·) := by
  rw [alternatives]
  rintro tail - rfl
  exact h rfl

/-- A text without open bars belongs to one part with what comes after it. -/
theorem alternatives_append {part : List Sign} (hpart : ∀ sign ∈ part, sign ≠ .opened '|')
    {rest : List Sign} (hrest : rest.head? ≠ some (.opened '|')) :
    alternatives (part ++ rest) = (alternatives rest).modifyHead (part ++ ·) := by
  induction part with
  | nil => exact (congrFun List.modifyHead_id _).symm
  | cons sign part ih =>
    obtain ⟨-, htail⟩ := List.forall_mem_cons.mp hpart
    -- the next sign is the part's own or the first one after it: no open bar
    have hhead : (part ++ rest).head? ≠ some (.opened '|') := by
      cases part with
      | nil => exact hrest
      | cons next part => exact fun h => htail next List.mem_cons_self (Option.some.inj h)
    rw [List.cons_append, alternatives_cons hhead, ih htail, List.modifyHead_modifyHead]
    rfl

theorem alternatives_separator_append (rest : List Sign) :
    alternatives (separatorSigns ++ rest) = [] :: alternatives rest := rfl

/-- Parts without open bars are what their list is split into. -/
theorem alternatives_intercalate {parts : List (List Sign)} (hne : parts ≠ [])
    (hparts : ∀ part ∈ parts, ∀ sign ∈ part, sign ≠ .opened '|') :
    alternatives (separatorSigns.intercalate parts) = parts := by
  induction parts with
  | nil => exact absurd rfl hne
  | cons part parts ih =>
    obtain ⟨hpart, hrest⟩ := List.forall_mem_cons.mp hparts
    cases parts with
    | nil =>
      have hend : ([] : List Sign).head? ≠ some (.opened '|') := by
        intro h
        cases h
      have halone := alternatives_append hpart hend
      rw [List.append_nil] at halone
      rw [List.intercalate_singleton, halone]
      simp only [alternatives, List.modifyHead_cons, List.append_nil]
    | cons next parts =>
      have hspace (rest : List Sign) : (separatorSigns ++ rest).head? ≠ some (.opened '|') := by
        intro h
        cases h
      rw [List.intercalate_cons_cons, List.append_assoc, alternatives_append hpart (hspace _),
        alternatives_separator_append, ih (List.cons_ne_nil _ _) hrest]
      simp only [List.modifyHead_cons, List.append_nil]

/-! ## Lists of words -/

/-- **Escaped words that are joined are read back**, one at least. -/
theorem isListOf_joined {words : List (List Char)} (h : words ≠ []) :
    IsListOf words (separator.intercalate (words.map (escapeChars isSpecial))) := by
  have hmarks : ∀ part ∈ words.map (List.map (Sign.ofChar isSpecial)), ∀ sign ∈ part,
      ¬sign.IsMark := by
    intro part hpart sign hsign
    obtain ⟨word, -, rfl⟩ := List.mem_map.mp hpart
    exact not_isMark_of_mem_map hsign
  have hne {c : Char} (hc : isSpecial c = true) :
      ∀ part ∈ words.map (List.map (Sign.ofChar isSpecial)), ∀ sign ∈ part,
        sign ≠ .opened c :=
    fun part hpart sign hsign => Sign.ne_opened_of_not_isMark hc (hmarks part hpart sign hsign)
  have hparts : alternatives (signs (separator.intercalate (words.map (escapeChars isSpecial))))
      = words.map (List.map (Sign.ofChar isSpecial)) := by
    rw [signs_joined, alternatives_intercalate (by simpa using h) (hne (by decide))]
  refine ⟨?_, ?_, ?_⟩
  · intro rest
    rw [signs_joined_append, signs_joined, signs_cons (by decide)]
    exact enclosed_append_close (forall_mem_intercalate (by decide) (hne (by decide))) _
  · rw [hparts]
    exact hmarks
  · have hchar (word : List Char) : (word.map (Sign.ofChar isSpecial)).map Sign.char = word :=
      List.map_map.trans (List.map_id word)
    rw [hparts, List.map_map]
    exact (List.map_congr_left fun word _ => hchar word).trans (List.map_id words)

end SearchQuery.Syntax
