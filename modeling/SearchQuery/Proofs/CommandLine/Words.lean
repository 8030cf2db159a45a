import Mathlib.Data.List.Basic
import SearchQuery.CommandLine.Run

/-!
# A shell reads the words back

A shell goes through a line from left to right. A single quote opens a
stretch that runs up to the next one and in which no character has a meaning;
outside of it a backslash takes the meaning of the character after it, and
any other character is bare. Stretches side by side are one word, and bare
white space ends it (`stretches?`, `wordsFrom`). That is all that a line needs
whose bare characters are inert: the operators, the other quotes, the patterns
of file names, comments and expansions of the shell are told by bare
characters (`activeChars`).

## What is proved

- `words?_line`: whatever the texts, the line that is made of them is read as
  just these words, the empty ones and those of many lines too.
- `isInert_line`: outside single quotes the line has no active character but
  for the quotes of the texts, each behind a backslash and between two quoted
  stretches.

`words?_commandLine` puts them together for the command line that is printed
for a compiled query.

Words are read off stretches, and a line is a row of stretches. So each kind
of spelling has one law, that says which stretches it adds in front of those
of what follows (`IsReadAs`), and lines are put together by `IsReadAs.append`.
-/

namespace SearchQuery.Shell

/-! ## How a shell reads -/

/-- The operators, and the line break that ends a command. -/
def operatorChars : List Char := ['|', '&', ';', '<', '>', '(', ')', '\n']

def quotingChars : List Char := ['\\', '\'', '"']

/-- What stands for other characters in a pattern of file names. -/
def patternChars : List Char := ['*', '?', '[', ']']

/-- What begins a comment. -/
def commentChars : List Char := ['#']

/-- What begins or ends something that is expanded. -/
def expansionChars : List Char := ['$', '\x60', '~', '\x7b', '\x7d', '!']

/-- The characters that a shell gives a meaning to when they are bare, but for
the white space inside a line. -/
def activeChars : List Char :=
  operatorChars ++ quotingChars ++ patternChars ++ commentChars ++ expansionChars

/-- White space that ends a word when it is bare. -/
def isBlank (c : Char) : Bool := [' ', '\t', '\n'].contains c

/-- A part of a line. -/
inductive Stretch where
  /-- A character that stands for itself if it is inert. -/
  | bare (c : Char)
  /-- A character behind a backslash. -/
  | escaped (c : Char)
  /-- What stands between single quotes. -/
  | quoted (cs : List Char)
deriving DecidableEq, Repr

/-- The characters that a stretch stands for. -/
def Stretch.text : Stretch → List Char
  | bare c => [c]
  | escaped c => [c]
  | quoted cs => cs

/-- Where a shell is in a line. -/
inductive Mode where
  | outside
  /-- Behind a backslash. -/
  | escaping
  /-- Between single quotes, behind some characters. -/
  | inside (taken : List Char)

/-- The stretches of a line, if it does not end behind a backslash or between
quotes. A line break behind a backslash is no part of the line. -/
def stretches? : Mode → List Char → Option (List Stretch)
  | .outside, [] => some []
  | .outside, '\'' :: cs => stretches? (.inside []) cs
  | .outside, '\\' :: cs => stretches? .escaping cs
  | .outside, c :: cs => (stretches? .outside cs).map (.bare c :: ·)
  | .escaping, [] => none
  | .escaping, '\n' :: cs => stretches? .outside cs
  | .escaping, c :: cs => (stretches? .outside cs).map (.escaped c :: ·)
  | .inside _, [] => none
  | .inside taken, '\'' :: cs => (stretches? .outside cs).map (.quoted taken :: ·)
  | .inside taken, c :: cs => stretches? (.inside (taken ++ [c])) cs

/-- The words of a line, behind the word that is open if there is one. -/
def wordsFrom : Option (List Char) → List Stretch → List (List Char)
  | opened, [] => opened.toList
  | opened, .bare c :: rest =>
    if isBlank c then opened.toList ++ wordsFrom none rest
    else wordsFrom (some (opened.getD [] ++ [c])) rest
  | opened, .escaped c :: rest => wordsFrom (some (opened.getD [] ++ [c])) rest
  | opened, .quoted cs :: rest => wordsFrom (some (opened.getD [] ++ cs)) rest

/-- The words of a line that ends outside of quotes. -/
def words? (s : String) : Option (List String) :=
  (stretches? .outside s.toList).map fun stretches => (wordsFrom none stretches).map String.ofList

/-- The stretches give a shell nothing to do but to take words: what is bare
has no meaning, and what is escaped is a quote between two quoted stretches. -/
structure HasNoActive (stretches : List Stretch) : Prop where
  bare : ∀ c, .bare c ∈ stretches → c ∉ activeChars
  escaped : ∀ before c after, stretches = before ++ .escaped c :: after →
    c = '\'' ∧ (∃ cs, before.getLast? = some (.quoted cs)) ∧
      ∃ cs, after.head? = some (.quoted cs)

/-- A line gives a shell nothing to do but to take words. -/
def IsInert (s : String) : Prop :=
  ∃ stretches, stretches? .outside s.toList = some stretches ∧ HasNoActive stretches

/-! ## Spellings of stretches -/

/-- The characters are read as the stretches, whatever follows. -/
def IsReadAs (cs : List Char) (stretches : List Stretch) : Prop :=
  ∀ rest, stretches? .outside (cs ++ rest) =
    (stretches? .outside rest).map (stretches ++ ·)

namespace IsReadAs

theorem nil : IsReadAs [] [] := by
  intro rest
  exact (Option.map_id' (x := stretches? .outside rest)).symm

/-- One run of characters behind another is read as the stretches of both. -/
theorem append {cs ds : List Char} {first second : List Stretch} (hfirst : IsReadAs cs first)
    (hsecond : IsReadAs ds second) : IsReadAs (cs ++ ds) (first ++ second) := by
  intro rest
  rw [List.append_assoc, hfirst, hsecond, Option.map_map]
  simp only [Function.comp_def, List.append_assoc]

/-- A row is read as the row of what its parts are read as. -/
theorem intercalate {between : List Char} {gap : List Stretch} (hbetween : IsReadAs between gap)
    {α : Type} {spell : α → List Char} {stretches : α → List Stretch}
    (hparts : ∀ a, IsReadAs (spell a) (stretches a)) (parts : List α) :
    IsReadAs (between.intercalate (parts.map spell)) (gap.intercalate (parts.map stretches)) := by
  induction parts with
  | nil => exact nil
  | cons part parts ih =>
    cases parts with
    | nil => simpa only [List.map_cons, List.map_nil, List.intercalate_singleton] using hparts part
    | cons next parts =>
      simp only [List.map_cons, List.intercalate_cons_cons] at ih ⊢
      exact ((hparts part).append hbetween).append ih

/-- A character that opens nothing is bare. -/
theorem bare {c : Char} (hquote : c ≠ '\'') (hslash : c ≠ '\\') : IsReadAs [c] [.bare c] := by
  intro rest
  rw [List.singleton_append, stretches?]
  · rfl
  · exact hquote
  · exact hslash

/-- The whole of what is read. -/
theorem stretches?_eq {cs : List Char} {stretches : List Stretch} (h : IsReadAs cs stretches) :
    stretches? .outside cs = some stretches := by
  have hall := h []
  rwa [List.append_nil, stretches?, Option.map_some, List.append_nil] at hall

end IsReadAs

/-! ## The stretches of a word -/

/-- The stretches of a quoted text, behind some characters of the first one. -/
def quotedStretches : List Char → List Char → List Stretch
  | taken, [] => [.quoted taken]
  | taken, '\'' :: cs => .quoted taken :: .escaped '\'' :: quotedStretches [] cs
  | taken, c :: cs => quotedStretches (taken ++ [c]) cs

/-- The stretches of a text as it is spelled. -/
def wordStretches (s : String) : List Stretch :=
  if !s.isEmpty && s.toList.all isSafe then s.toList.map .bare else quotedStretches [] s.toList

/-- A quote behind a backslash is read as a quote and ends nothing. -/
theorem isReadAs_escapedQuote : IsReadAs ['\\', '\''] [.escaped '\''] := by
  intro rest
  rfl

/-- What is quoted is read up to the quote that ends it. -/
theorem stretches?_quoteChars (taken cs rest : List Char) :
    stretches? (.inside taken) (quoteChars cs ++ '\'' :: rest) =
      (stretches? .outside rest).map (quotedStretches taken cs ++ ·) := by
  fun_induction quotedStretches taken cs with
  | case1 taken => rfl
  | case2 taken cs ih =>
    -- the stretch ends, the quote follows behind a backslash, and the next one opens
    have hopened : stretches? .outside ('\'' :: (quoteChars cs ++ '\'' :: rest)) =
        (stretches? .outside rest).map (quotedStretches [] cs ++ ·) := ih
    have hescaped := isReadAs_escapedQuote ('\'' :: (quoteChars cs ++ '\'' :: rest))
    calc stretches? (.inside taken) (quoteChars ('\'' :: cs) ++ '\'' :: rest)
        = (stretches? .outside (['\\', '\''] ++ '\'' :: (quoteChars cs ++ '\'' :: rest))).map
            (.quoted taken :: ·) := rfl
      _ = (((stretches? .outside rest).map (quotedStretches [] cs ++ ·)).map
            ([.escaped '\''] ++ ·)).map (.quoted taken :: ·) := by rw [hescaped, hopened]
      _ = (stretches? .outside rest).map
            (.quoted taken :: .escaped '\'' :: quotedStretches [] cs ++ ·) := by
          rw [Option.map_map, Option.map_map]
          rfl
  | case3 taken c cs hne ih =>
    rw [quoteChars, List.cons_append, stretches?, ih]
    · exact hne
    · exact hne

/-- A quoted text is read as its quoted stretches, with an escaped quote
wherever the text has one. -/
theorem isReadAs_quoteChars (cs : List Char) :
    IsReadAs ('\'' :: quoteChars cs ++ ['\'']) (quotedStretches [] cs) := by
  intro rest
  rw [List.append_assoc, List.singleton_append]
  exact stretches?_quoteChars [] cs rest

/-- No character of a list without safe ones is safe. -/
theorem notMem_of_isSafe {cs : List Char} (hcs : cs.all (!isSafe ·) = true) {c : Char}
    (h : isSafe c = true) : c ∉ cs := by
  intro hmem
  have hunsafe := List.all_eq_true.mp hcs c hmem
  rw [h] at hunsafe
  cases hunsafe

/-- What is written without quotes means nothing to a shell. -/
theorem notMem_activeChars_of_isSafe {c : Char} (h : isSafe c = true) : c ∉ activeChars :=
  notMem_of_isSafe (by decide) h

/-- What is written without quotes ends no word. -/
theorem isBlank_of_isSafe {c : Char} (h : isSafe c = true) : isBlank c = false := by
  rw [isBlank, List.contains_eq_mem, decide_eq_false_iff_not]
  exact notMem_of_isSafe (by decide) h

/-- A text of safe characters is read character by character. -/
theorem isReadAs_safe {cs : List Char} (h : ∀ c ∈ cs, isSafe c = true) :
    IsReadAs cs (cs.map .bare) := by
  induction cs with
  | nil => exact .nil
  | cons c cs ih =>
    obtain ⟨hc, hcs⟩ := List.forall_mem_cons.mp h
    have hactive := notMem_activeChars_of_isSafe hc
    have hquote : c ≠ '\'' := fun heq => hactive (heq ▸ by decide)
    have hslash : c ≠ '\\' := fun heq => hactive (heq ▸ by decide)
    exact (IsReadAs.bare hquote hslash).append (ih hcs)

/-- An argument is read as the stretches that it is written in, with quotes or
without. -/
theorem isReadAs_word (s : String) : IsReadAs (word s).toList (wordStretches s) := by
  by_cases h : (!s.isEmpty && s.toList.all isSafe) = true
  · rw [word, wordStretches, if_pos h, if_pos h]
    have hsafe := (Bool.and_eq_true_iff.mp h).2
    exact isReadAs_safe (List.all_eq_true.mp hsafe)
  · rw [word, wordStretches, if_neg h, if_neg h, String.toList_ofList]
    exact isReadAs_quoteChars s.toList

/-! ## The words of a row of stretches -/

/-- The stretches are one word of the characters. -/
structure IsWord (stretches : List Stretch) (cs : List Char) : Prop where
  ne_nil : stretches ≠ []
  unbroken : ∀ c, .bare c ∈ stretches → isBlank c = false
  text_eq : stretches.flatMap Stretch.text = cs

/-- A stretch that is no blank goes on with the word or begins one. -/
theorem wordsFrom_cons {stretch : Stretch} (h : ∀ c, .bare c = stretch → isBlank c = false)
    (opened : Option (List Char)) (rest : List Stretch) :
    wordsFrom opened (stretch :: rest) =
      wordsFrom (some (opened.getD [] ++ stretch.text)) rest := by
  cases stretch with
  | bare c => rw [wordsFrom, if_neg (Bool.eq_false_iff.mp (h c rfl))]; rfl
  | escaped c => rfl
  | quoted cs => rfl

/-- Stretches without a blank are taken into the word that is open. -/
theorem wordsFrom_some_append {stretches : List Stretch}
    (h : ∀ c, .bare c ∈ stretches → isBlank c = false) (opened : List Char)
    (rest : List Stretch) :
    wordsFrom (some opened) (stretches ++ rest) =
      wordsFrom (some (opened ++ stretches.flatMap Stretch.text)) rest := by
  induction stretches generalizing opened with
  | nil => rw [List.nil_append, List.flatMap_nil, List.append_nil]
  | cons stretch stretches ih =>
    have hhead : ∀ c, .bare c = stretch → isBlank c = false :=
      fun c heq => h c (heq ▸ List.mem_cons_self)
    have htail : ∀ c, .bare c ∈ stretches → isBlank c = false :=
      fun c hmem => h c (List.mem_cons_of_mem _ hmem)
    rw [List.cons_append, wordsFrom_cons hhead, Option.getD_some, ih htail, List.flatMap_cons,
      List.append_assoc]

/-- Between words, a word is read up to its end. -/
theorem IsWord.wordsFrom_append {stretches : List Stretch} {cs : List Char}
    (h : IsWord stretches cs) (rest : List Stretch) :
    wordsFrom none (stretches ++ rest) = wordsFrom (some cs) rest := by
  obtain ⟨hne, hunbroken, rfl⟩ := h
  obtain ⟨stretch, tail, rfl⟩ := List.exists_cons_of_ne_nil hne
  rw [List.cons_append, wordsFrom_cons fun c heq => hunbroken c (heq ▸ List.mem_cons_self),
    wordsFrom_some_append fun c hmem => hunbroken c (List.mem_cons_of_mem _ hmem)]
  rfl

/-- Words with a space from one to the next are taken apart again. -/
theorem wordsFrom_intercalate {α : Type} {stretches : α → List Stretch} {text : α → List Char}
    (h : ∀ a, IsWord (stretches a) (text a)) (parts : List α) :
    wordsFrom none ([Stretch.bare ' '].intercalate (parts.map stretches)) = parts.map text := by
  induction parts with
  | nil => rfl
  | cons part parts ih =>
    cases parts with
    | nil =>
      have hword := (h part).wordsFrom_append []
      rw [List.append_nil] at hword
      rw [List.map_singleton, List.map_singleton, List.intercalate_singleton, hword]
      rfl
    | cons next parts =>
      rw [List.map_cons, List.map_cons] at ih
      rw [List.map_cons, List.map_cons, List.intercalate_cons_cons, List.append_assoc,
        (h part).wordsFrom_append, List.map_cons, List.map_cons, ← ih]
      rfl

/-- No character of a quoted argument is bare. -/
theorem bare_notMem_quotedStretches (d : Char) (taken cs : List Char) :
    .bare d ∉ quotedStretches taken cs := by
  fun_induction quotedStretches taken cs with
  | case1 taken => simp only [List.mem_singleton, reduceCtorEq, not_false_eq_true]
  | case2 taken cs ih => simpa only [List.mem_cons, reduceCtorEq, false_or] using ih
  | case3 taken c cs _ ih => exact ih

/-- The stretches of a quoted argument stand for its characters. -/
theorem text_quotedStretches (taken cs : List Char) :
    (quotedStretches taken cs).flatMap Stretch.text = taken ++ cs := by
  fun_induction quotedStretches taken cs with
  | case1 taken => simp only [List.flatMap_singleton, Stretch.text, List.append_nil]
  | case2 taken cs ih =>
    simp only [List.flatMap_cons, Stretch.text, ih, List.nil_append, List.singleton_append]
  | case3 taken c cs _ ih => rw [ih, List.append_assoc, List.singleton_append]

/-- A quoted argument begins with a quoted stretch, so it is never empty. -/
theorem exists_head_quotedStretches (taken cs : List Char) :
    ∃ ds, (quotedStretches taken cs).head? = some (.quoted ds) := by
  fun_induction quotedStretches taken cs with
  | case1 taken => exact ⟨taken, rfl⟩
  | case2 taken cs => exact ⟨taken, rfl⟩
  | case3 taken c cs _ ih => exact ih

/-- A quoted text is one word, also the empty one. -/
theorem isWord_quotedStretches (cs : List Char) : IsWord (quotedStretches [] cs) cs where
  ne_nil := by
    obtain ⟨ds, hds⟩ := exists_head_quotedStretches [] cs
    exact List.ne_nil_of_mem (List.mem_of_mem_head? hds)
  unbroken d hmem := absurd hmem (bare_notMem_quotedStretches d [] cs)
  text_eq := text_quotedStretches [] cs

/-- Safe characters are one word, if there is any. -/
theorem isWord_safe {cs : List Char} (hne : cs ≠ []) (h : ∀ c ∈ cs, isSafe c = true) :
    IsWord (cs.map .bare) cs where
  ne_nil := List.map_eq_nil_iff.not.mpr hne
  unbroken c hmem := by
    obtain ⟨d, hd, heq⟩ := List.mem_map.mp hmem
    cases heq
    exact isBlank_of_isSafe (h c hd)
  text_eq := by
    rw [List.flatMap_map]
    exact List.flatMap_singleton' cs

/-- An argument is one word, also when it is empty. -/
theorem isWord_wordStretches (s : String) : IsWord (wordStretches s) s.toList := by
  by_cases h : (!s.isEmpty && s.toList.all isSafe) = true
  · rw [wordStretches, if_pos h]
    obtain ⟨hempty, hsafe⟩ := Bool.and_eq_true_iff.mp h
    refine isWord_safe ?_ (List.all_eq_true.mp hsafe)
    rw [Ne, String.toList_eq_nil_iff]
    rintro rfl
    cases hempty
  · rw [wordStretches, if_neg h]
    exact isWord_quotedStretches s.toList

/-! ## Inert lines -/

namespace HasNoActive

/-- Two inert rows of stretches are inert one behind the other: an escaped quote
has its neighbours in its own row. -/
theorem append {first second : List Stretch} (hfirst : HasNoActive first)
    (hsecond : HasNoActive second) : HasNoActive (first ++ second) where
  bare c hmem := by
    rcases List.mem_append.mp hmem with hmem | hmem
    · exact hfirst.bare c hmem
    · exact hsecond.bare c hmem
  escaped before c after heq := by
    rcases List.append_eq_append_iff.mp heq with ⟨part, rfl, hpart⟩ | ⟨part, hpart, hrest⟩
    · obtain ⟨hc, ⟨cs, hlast⟩, hnext⟩ := hsecond.escaped part c after hpart
      exact ⟨hc, ⟨cs, by rw [List.getLast?_append, hlast]; rfl⟩, hnext⟩
    · cases part with
      | nil =>
        -- it would begin the second part, where nothing stands before it
        obtain ⟨-, ⟨cs, hlast⟩, -⟩ := hsecond.escaped [] c after hrest.symm
        cases hlast
      | cons stretch tail =>
        rw [List.cons_append, List.cons.injEq] at hrest
        obtain ⟨rfl, rfl⟩ := hrest
        obtain ⟨hc, hlast, ⟨cs, hnext⟩⟩ := hfirst.escaped before c tail hpart
        exact ⟨hc, hlast, ⟨cs, by rw [List.head?_append, hnext]; rfl⟩⟩

theorem nil : HasNoActive [] where
  bare _ hmem := nomatch hmem
  escaped before c after heq := by
    have hmem : Stretch.escaped c ∈ before ++ .escaped c :: after :=
      List.mem_append_right _ List.mem_cons_self
    rw [← heq] at hmem
    cases hmem

/-- Bare characters that are inert. -/
theorem map_bare {cs : List Char} (h : ∀ c ∈ cs, c ∉ activeChars) :
    HasNoActive (cs.map .bare) where
  bare c hmem := by
    obtain ⟨d, hd, heq⟩ := List.mem_map.mp hmem
    cases heq
    exact h c hd
  escaped before c after heq := by
    have hmem : Stretch.escaped c ∈ cs.map Stretch.bare :=
      heq ▸ List.mem_append_right _ List.mem_cons_self
    obtain ⟨d, -, hd⟩ := List.mem_map.mp hmem
    cases hd

/-- Inert rows with an inert gap between them are an inert row. -/
theorem intercalate {gap : List Stretch} (hgap : HasNoActive gap) {α : Type}
    {stretches : α → List Stretch} (h : ∀ a, HasNoActive (stretches a)) (parts : List α) :
    HasNoActive (gap.intercalate (parts.map stretches)) := by
  induction parts with
  | nil => exact nil
  | cons part parts ih =>
    cases parts with
    | nil => simpa only [List.map_cons, List.map_nil, List.intercalate_singleton] using h part
    | cons next parts =>
      simp only [List.map_cons, List.intercalate_cons_cons] at ih ⊢
      exact ((h part).append hgap).append ih

/-- Quotes take every meaning from the characters between them. -/
theorem quoted (cs : List Char) : HasNoActive [.quoted cs] where
  bare c hmem := by
    rw [List.mem_singleton] at hmem
    cases hmem
  escaped before c after heq := by
    have hmem : Stretch.escaped c ∈ [Stretch.quoted cs] :=
      heq ▸ List.mem_append_right _ List.mem_cons_self
    rw [List.mem_singleton] at hmem
    cases hmem

/-- A quote behind a backslash goes between two quoted stretches. -/
theorem splice {rest : List Stretch} (h : HasNoActive rest)
    (hhead : ∃ cs, rest.head? = some (.quoted cs)) (cs : List Char) :
    HasNoActive (.quoted cs :: .escaped '\'' :: rest) where
  bare c hmem := by
    simp only [List.mem_cons, reduceCtorEq, false_or] at hmem
    exact h.bare c hmem
  escaped before c after heq := by
    match before with
    | [] => cases heq
    | [first] =>
      cases heq
      exact ⟨rfl, ⟨cs, rfl⟩, hhead⟩
    | first :: second :: before =>
      rw [List.cons_append, List.cons_append, List.cons.injEq, List.cons.injEq] at heq
      obtain ⟨-, -, heq⟩ := heq
      obtain ⟨hc, ⟨ds, hlast⟩, hnext⟩ := h.escaped before c after heq
      exact ⟨hc, ⟨ds, by rw [List.getLast?_cons, List.getLast?_cons, hlast]; rfl⟩, hnext⟩

end HasNoActive

/-- A quoted argument is inert, its escaped quotes included. -/
theorem hasNoActive_quotedStretches (taken cs : List Char) :
    HasNoActive (quotedStretches taken cs) := by
  fun_induction quotedStretches taken cs with
  | case1 taken => exact .quoted taken
  | case2 taken cs ih => exact ih.splice (exists_head_quotedStretches [] cs) taken
  | case3 taken c cs _ ih => exact ih

/-- An argument is inert, with quotes or without. -/
theorem hasNoActive_wordStretches (s : String) : HasNoActive (wordStretches s) := by
  by_cases h : (!s.isEmpty && s.toList.all isSafe) = true
  · rw [wordStretches, if_pos h]
    have hsafe := List.all_eq_true.mp (Bool.and_eq_true_iff.mp h).2
    exact .map_bare fun c hc => notMem_activeChars_of_isSafe (hsafe c hc)
  · rw [wordStretches, if_neg h]
    exact hasNoActive_quotedStretches [] s.toList

/-! ## Lines of words -/

/-- The stretches of a line of texts. -/
def lineStretches (texts : List String) : List Stretch :=
  [Stretch.bare ' '].intercalate (texts.map wordStretches)

/-- A line is read as the stretches of its arguments, with a space between
them. -/
theorem isReadAs_line (texts : List String) :
    IsReadAs (line (texts.map .text)).toList (lineStretches texts) := by
  have hgap : IsReadAs " ".toList [.bare ' '] := .bare (by decide) (by decide)
  have hline := hgap.intercalate isReadAs_word texts
  rwa [line, String.toList_intercalate, List.map_map, List.map_map]

/-- **A line of texts is read as these texts.** -/
theorem words?_line (texts : List String) : words? (line (texts.map .text)) = some texts := by
  rw [words?, (isReadAs_line texts).stretches?_eq, Option.map_some, lineStretches,
    wordsFrom_intercalate isWord_wordStretches, List.map_map]
  simp only [Function.comp_def, String.ofList_toList, List.map_id']

/-- Stretches side by side are one word, and the line break is quoted. -/
example : line [.text "it's", .text "", .text "a\nb"] = "'it'\\''s' '' 'a\nb'" ∧
    words? "'it'\\''s' '' 'a\nb'" = some ["it's", "", "a\nb"] := by
  decide

/-- **A line of texts is inert.** -/
theorem isInert_line (texts : List String) : IsInert (line (texts.map .text)) := by
  refine ⟨lineStretches texts, (isReadAs_line texts).stretches?_eq, ?_⟩
  have hspace : ' ' ∉ activeChars := by decide
  have hgap : HasNoActive ([' '].map .bare) := .map_bare (List.forall_mem_singleton.mpr hspace)
  exact hgap.intercalate hasNoActive_wordStretches texts

/-! ## The arguments of a query without bytes -/

/-- No argument is bytes. -/
def AreTexts (args : List Argument) : Prop := ∃ texts : List String, args = texts.map .text

namespace AreTexts

theorem nil : AreTexts [] := ⟨[], rfl⟩

theorem cons {args : List Argument} (h : AreTexts args) (value : String) :
    AreTexts (.text value :: args) := by
  obtain ⟨texts, rfl⟩ := h
  exact ⟨value :: texts, rfl⟩

theorem append {first second : List Argument} (hfirst : AreTexts first)
    (hsecond : AreTexts second) : AreTexts (first ++ second) := by
  obtain ⟨texts, rfl⟩ := hfirst
  obtain ⟨more, rfl⟩ := hsecond
  exact ⟨texts ++ more, List.map_append.symm⟩

theorem map {α : Type} (value : α → String) (as : List α) :
    AreTexts (as.map fun a => .text (value a)) :=
  ⟨as.map value, by rw [List.map_map]; rfl⟩

theorem flatMap {α : Type} {args : α → List Argument} {as : List α}
    (h : ∀ a ∈ as, AreTexts (args a)) : AreTexts (as.flatMap args) := by
  induction as with
  | nil => exact nil
  | cons a as ih =>
    obtain ⟨ha, has⟩ := List.forall_mem_cons.mp h
    rw [List.flatMap_cons]
    exact ha.append (ih has)

/-- A keyword that may be left out is a text. -/
theorem flag (on : Bool) (keyword : String) : AreTexts (flag on keyword) := by
  cases on with
  | false => exact nil
  | true => exact nil.cons keyword

/-- Arguments behind a keyword and their count are texts when they are. -/
theorem counted {args : List Argument} (h : AreTexts args) (keyword : String) :
    AreTexts (counted keyword args) := by
  rw [SearchQuery.counted]
  split
  · exact nil
  · exact (h.cons _).cons keyword

theorem scorerArgs (scorer : Option String) : AreTexts (scorerArgs scorer) := by
  cases scorer with
  | none => exact nil
  | some scorer => exact (nil.cons scorer).cons "SCORER"

theorem sortArgs (key : Option SortKey) : AreTexts (sortArgs key) := by
  cases key with
  | none => exact nil
  | some key => exact ((nil.cons _).cons _).cons "SORTBY"

/-- The options of a search are written as texts. -/
theorem searchArgs (options : SearchOptions) : AreTexts options.args := by
  have hreturn : AreTexts (options.returnFields.map .text) := map id _
  have hlimit : AreTexts [.text "LIMIT", .ofNat options.offset.toNat, .ofNat options.num.toNat] :=
    ((nil.cons _).cons _).cons "LIMIT"
  exact ((((((flag _ _).append (flag _ _)).append (hreturn.counted _)).append (flag _ _)).append
    (scorerArgs _)).append (sortArgs _)).append hlimit

/-- The steps of a pipeline are written as texts. -/
theorem pipelineArgs (pipeline : Pipeline) : AreTexts pipeline.args := by
  have hload := map Pipeline.loadReference pipeline.load
  have hsteps : AreTexts (pipeline.apply.flatMap Pipeline.applyArgs) :=
    flatMap fun step _ => (((nil.cons step.name).cons "AS").cons step.expression).cons "APPLY"
  have hranking : AreTexts [.text "SORTBY", .ofNat 2, .text ("@" ++ pipeline.sortBy),
      .text "DESC", .text "MAX", .ofNat pipeline.max.toNat] :=
    (((((nil.cons _).cons "MAX").cons "DESC").cons _).cons _).cons "SORTBY"
  exact ((((scorerArgs _).append (flag _ _)).append (hload.counted _)).append hsteps).append
    hranking

/-- A command is written as texts. -/
theorem commandArgs (command : Command) : AreTexts command.args := by
  cases command with
  | search options => exact searchArgs options
  | aggregate pipeline => exact pipelineArgs pipeline

end AreTexts

end SearchQuery.Shell

namespace SearchQuery.Compiled

/-- No parameter of the query is bytes. -/
def HasNoBytes (compiled : Compiled) : Prop :=
  ∀ param ∈ compiled.params, ∀ bytes, param.2 ≠ .bytes bytes

/-- A query none of whose placeholders has bytes is sent in texts alone. -/
theorem HasNoBytes.areTexts_args {compiled : Compiled} (h : compiled.HasNoBytes)
    (index : String) : Shell.AreTexts (compiled.args index) := by
  have hparams : Shell.AreTexts compiled.params.args := by
    refine Shell.AreTexts.counted (.flatMap ?_) "PARAMS"
    rintro ⟨name, value⟩ hmem
    cases value with
    | int value => exact (Shell.AreTexts.nil.cons _).cons name
    | text value => exact (Shell.AreTexts.nil.cons value).cons name
    | bytes bytes => exact absurd rfl (h _ hmem bytes)
  have hdialect : Shell.AreTexts [.text "DIALECT", .ofNat compiled.command.dialect.toNat] :=
    (Shell.AreTexts.nil.cons _).cons "DIALECT"
  exact ((((Shell.AreTexts.commandArgs compiled.command).append hparams).append hdialect).cons
    compiled.query).cons index

end SearchQuery.Compiled

namespace SearchQuery.Shell

/-- The command line is the line of the command's name and the arguments. -/
theorem commandLine_eq_line (index : String) (compiled : Compiled) :
    commandLine index compiled = line (.text compiled.command.name :: compiled.args index) := by
  have hsearch : word "FT.SEARCH" = "FT.SEARCH" := by decide
  have haggregate : word "FT.AGGREGATE" = "FT.AGGREGATE" := by decide
  have hname : word compiled.command.name = compiled.command.name := by
    cases compiled.command with
    | search options => exact hsearch
    | aggregate pipeline => exact haggregate
  obtain ⟨first, rest, hargs⟩ : ∃ first rest, compiled.args index = first :: rest := ⟨_, _, rfl⟩
  rw [commandLine, hargs, ← String.toList_inj]
  simp only [line, List.map_cons, argument, hname, String.toList_append,
    String.toList_intercalate, List.intercalate_cons_cons]

/-- **A shell reads a printed line back.** Whatever the texts, a shell reads
their line as just these words, and nothing outside single quotes has another
meaning for it. The command line that a compiled query without bytes is
printed with is read as the name of the command and the query's arguments. -/
theorem words?_commandLine :
    (∀ texts : List String,
      words? (line (texts.map .text)) = some texts ∧ IsInert (line (texts.map .text))) ∧
    ∀ (index : String) (compiled : Compiled), compiled.HasNoBytes →
      ∃ texts above, compiled.args index = texts.map .text ∧
        CommandLine.compiledText index compiled =
          above ++ "Command: " ++ commandLine index compiled ++ "\n" ∧
        words? (commandLine index compiled) = some (compiled.command.name :: texts) ∧
        IsInert (commandLine index compiled) := by
  refine ⟨fun texts => ⟨words?_line texts, isInert_line texts⟩, ?_⟩
  intro index compiled h
  obtain ⟨texts, htexts⟩ := h.areTexts_args index
  have hline : commandLine index compiled =
      line ((compiled.command.name :: texts).map .text) := by
    rw [commandLine_eq_line, htexts, List.map_cons]
  refine ⟨texts, _, htexts, rfl, ?_, ?_⟩
  · rw [hline, words?_line]
  · rw [hline]
    exact isInert_line _

/-- A query with quotes, expansions and line breaks in it. -/
theorem words?_commandLine_quotes :
    let compiled : Compiled :=
      { query := "it's $K \\ *\n", params := [("K", .int 5), ("t", .text "")],
        command := .search {} }
    compiled.HasNoBytes ∧
      words? (commandLine "my index" compiled) =
        some ["FT.SEARCH", "my index", "it's $K \\ *\n", "LIMIT", "0", "10", "PARAMS", "4", "K",
          "5", "t", "", "DIALECT", "2"] ∧
      IsInert (commandLine "my index" compiled) := by
  intro compiled
  have hbytes : compiled.HasNoBytes := by
    simp [Compiled.HasNoBytes, compiled]
  obtain ⟨texts, above, hargs, -, hwords, hinert⟩ := words?_commandLine.2 "my index" compiled hbytes
  refine ⟨hbytes, ?_, hinert⟩
  have htexts : compiled.args "my index" =
      ["my index", "it's $K \\ *\n", "LIMIT", "0", "10", "PARAMS", "4", "K", "5", "t", "",
        "DIALECT", "2"].map .text := by decide
  have hinjective := List.map_injective_iff.mpr fun a b (h : Argument.text a = .text b) =>
    Argument.text.inj h
  rw [hwords, hinjective (hargs.symm.trans htexts)]
  rfl

end SearchQuery.Shell
