import SearchQuery.Proofs.Syntax.Unescape
import SearchQuery.Proofs.Text.Lowercase

/-!
# Texts are tokenized word by word

Every word of a text is sorted by itself. A word is what stands between
white space, and it counts unless it is made of commas only; without the
commas around it, it is a stop word or is kept. `tokenize_eq` says so, and
the laws follow: texts that white space parts are tokenized apart, the words
that are kept are kept again, and all that matters of a list of stop words
is the set of its words as they are compared.

The second law is the one that needs lower case to be settled. A word that
is kept is compared, the second time, in the form that it was compared in
before.
-/

namespace SearchQuery

namespace Text

/-! ## Words that count -/

/-- The words of a text that are not made of commas only. -/
def countedWords (cs : List Char) : List (List Char) :=
  (cs.splitOnP isSpace).filter fun word => !word.all (· == ',')

/-- A white-space character parts the words before it from those after it. -/
theorem countedWords_append_cons {c : Char} (hc : isSpace c = true) (as bs : List Char) :
    countedWords (as ++ c :: bs) = countedWords as ++ countedWords bs := by
  rw [countedWords, List.splitOnP_append_cons as bs hc, List.filter_append]
  rfl

/-- White space before a text adds no words. -/
theorem countedWords_append_of_forall {ws : List Char} (h : ∀ c ∈ ws, isSpace c = true)
    (bs : List Char) : countedWords (ws ++ bs) = countedWords bs := by
  induction ws with
  | nil => rfl
  | cons c ws ih =>
    obtain ⟨hc, hws⟩ := List.forall_mem_cons.mp h
    have hfirst := countedWords_append_cons hc [] (ws ++ bs)
    rw [ih hws] at hfirst
    exact hfirst

/-- White space between two texts parts their words. -/
theorem countedWords_append_append {ws : List Char} (hne : ws ≠ [])
    (h : ∀ c ∈ ws, isSpace c = true) (as bs : List Char) :
    countedWords (as ++ ws ++ bs) = countedWords as ++ countedWords bs := by
  obtain ⟨c, rest, rfl⟩ := List.exists_cons_of_ne_nil hne
  obtain ⟨hc, hrest⟩ := List.forall_mem_cons.mp h
  rw [List.append_assoc, List.cons_append, countedWords_append_cons hc,
    countedWords_append_of_forall hrest]

/-- A counted word has no white space and something that is no comma. -/
def IsCounted (word : List Char) : Prop :=
  (∀ c ∈ word, isSpace c = false) ∧ word.all (· == ',') = false

/-- A counted word by itself is a text of one word. -/
theorem IsCounted.countedWords {word : List Char} (h : IsCounted word) :
    countedWords word = [word] := by
  obtain ⟨hspace, hcomma⟩ := h
  have hsplit : word.splitOnP isSpace = [word] := List.splitOnP_eq_singleton hspace
  rw [Text.countedWords, hsplit]
  simp [hcomma]

/-- Counted words that single spaces join are read back. -/
theorem countedWords_intercalate {words : List (List Char)} (h : ∀ word ∈ words, IsCounted word) :
    countedWords ([' '].intercalate words) = words := by
  induction words with
  | nil => rfl
  | cons word words ih =>
    obtain ⟨hword, hwords⟩ := List.forall_mem_cons.mp h
    cases words with
    | nil => rw [List.intercalate_singleton, hword.countedWords]
    | cons next words =>
      have hspace : isSpace ' ' = true := by decide
      rw [List.intercalate_cons_cons, List.append_assoc, List.singleton_append,
        countedWords_append_cons hspace, hword.countedWords, ih hwords]
      rfl

end Text

/-- The tokens of one text and then those of another. -/
def Tokens.append (first second : Tokens) : Tokens :=
  ⟨first.kept ++ second.kept, first.dropped ++ second.dropped⟩

instance : Append Tokens := ⟨Tokens.append⟩

namespace Stopwords

open Text (countedWords IsCounted)

/-! ## One word -/

/-- A word without the commas around it. -/
def withoutCommas (word : List Char) : List Char := Text.strip (· == ',') word

/-- A word as a token: without the commas around it and in lower case. -/
def tokenOf (word : List Char) : List Char := Text.lower (withoutCommas word)

/-- Nothing is left of a word that is made of commas only. -/
theorem withoutCommas_eq_nil {word : List Char} :
    withoutCommas word = [] ↔ word.all (· == ',') = true := by
  rw [withoutCommas, Text.strip_eq_nil, List.all_eq_true]

/-- The token of a counted word is a counted word, and its own token. -/
theorem isCounted_tokenOf {word : List Char} (h : IsCounted word) :
    IsCounted (tokenOf word) ∧ tokenOf (tokenOf word) = tokenOf word := by
  obtain ⟨hspace, hcomma⟩ := h
  have hbare : Text.IsBare (· == ',') (tokenOf word) :=
    Text.isBare_lower Text.isKeptOut_comma (Text.isBare_strip _ _)
  have hstripped : ∀ c ∈ withoutCommas word, Text.isSpace c = false :=
    fun c hc => hspace c (Text.mem_of_mem_strip hc)
  refine ⟨⟨Text.isSpace_of_mem_lower hstripped, ?_⟩, ?_⟩
  · -- the first character is none of the commas that were taken off
    have hne : tokenOf word ≠ [] := by
      intro hnil
      rw [tokenOf, Text.lower_eq_nil, withoutCommas_eq_nil, hcomma] at hnil
      cases hnil
    obtain ⟨first, rest, htoken⟩ := List.exists_cons_of_ne_nil hne
    have hfirst : (first == ',') = false := hbare.1 first (by rw [htoken]; rfl)
    rw [htoken, List.all_cons, hfirst, Bool.false_and]
  · rw [tokenOf, withoutCommas, Text.strip_of_isBare hbare, tokenOf, Text.lower_lower]

/-! ## Every word -/

/-- What is left of the words of a text is what the counted ones are without
their commas. -/
theorem bareWords_eq (text : String) :
    bareWords text = (countedWords text.toList).map withoutCommas := by
  have hkeeps {piece : List Char} (h : piece ∈ Text.pieces text.toList) :
      (!(bare piece).isEmpty && !piece.isEmpty) = !piece.all (· == ',') := by
    have hempty : (bare piece).isEmpty = piece.all (· == ',') := by
      rw [Bool.eq_iff_iff, List.isEmpty_iff, bare_of_mem_pieces h]
      exact withoutCommas_eq_nil
    rw [hempty]
    cases piece with
    | nil => rfl
    | cons c piece => simp
  rw [bareWords, Text.words, countedWords, ← Text.pieces_eq_splitOnP, List.filter_map,
    List.filter_filter]
  simp only [Function.comp_def]
  rw [List.filter_congr fun piece hpiece => hkeeps hpiece]
  apply List.map_congr_left
  intro piece hpiece
  exact bare_of_mem_pieces (List.mem_filter.mp hpiece).1

/-- A word without its commas is a stop word when its token is one of those
dropped. -/
theorem contains_ofList_withoutCommas (stopwords : Stopwords) (word : List Char) :
    stopwords.contains (String.ofList (withoutCommas word))
      = stopwords.words.contains (tokenOf word) := by
  rw [contains, String.toList_ofList]
  rfl

/-- A text has one token for each word that counts. The token is dropped if
the word without its commas is a stop word, and kept otherwise. -/
theorem tokenize_eq (stopwords : Stopwords) (text : String) :
    stopwords.tokenize text = {
      kept := ((countedWords text.toList).filter fun word =>
          !stopwords.contains (String.ofList (withoutCommas word))).map fun word =>
        Escape.text (String.ofList (tokenOf word))
      dropped := ((countedWords text.toList).filter fun word =>
          stopwords.contains (String.ofList (withoutCommas word))).map fun word =>
        String.ofList (tokenOf word) } := by
  simp only [tokenize, bareWords_eq, contains_ofList_withoutCommas, List.filter_map, List.map_map,
    Function.comp_def]
  rfl

/-! ## Stop words -/

/-- The words of a list of stop words, as they are written. -/
def entries : Stopwords → List String
  | none => []
  | english => englishStopwords
  | custom words => words

/-- Two lists of stop words have the same words, trimmed and in lower case,
blank ones aside. -/
def SameWords (stopwords other : Stopwords) : Prop :=
  ∀ word ≠ [], word ∈ stopwords.entries.map canonical ↔ word ∈ other.entries.map canonical

theorem mem_words {stopwords : Stopwords} {word : List Char} :
    word ∈ stopwords.words ↔ word ∈ stopwords.entries.map canonical ∧ word ≠ [] := by
  have hwords : stopwords.words = canonicalWords stopwords.entries := by
    cases stopwords <;> rfl
  rw [hwords, canonicalWords, List.mem_filter]
  simp

/-- Lists of the same words drop the same words. -/
theorem SameWords.contains_eq {stopwords other : Stopwords} (h : SameWords stopwords other) :
    stopwords.contains = other.contains := by
  funext word
  rw [Bool.eq_iff_iff, contains, contains, drops, drops, List.contains_iff_mem,
    List.contains_iff_mem, mem_words, mem_words]
  exact and_congr_left fun hne => h _ hne

/-! ## Laws -/

/-- Texts that white space parts are tokenized apart. -/
theorem tokenize_append_append (stopwords : Stopwords) {between : String} (hne : between ≠ "")
    (hblank : Text.isBlank between = true) (first second : String) :
    stopwords.tokenize (first ++ between ++ second)
      = stopwords.tokenize first ++ stopwords.tokenize second := by
  have hlist : between.toList ≠ [] := by simpa using hne
  have hwords : countedWords (first ++ between ++ second).toList
      = countedWords first.toList ++ countedWords second.toList := by
    rw [String.toList_append, String.toList_append]
    exact Text.countedWords_append_append hlist (List.all_eq_true.mp hblank) _ _
  simp only [tokenize_eq, hwords, List.filter_append, List.map_append]
  rfl

/-- The text of some tokens: their escapes undone, joined by single spaces. -/
def textOf (tokens : List String) : String :=
  " ".intercalate (tokens.map fun token => String.ofList (Syntax.unescape token.toList))

/-- The text of escaped words is the words, joined by single spaces. -/
theorem toList_textOf_escaped (words : List (List Char)) :
    (textOf (words.map fun word => Escape.text (String.ofList word))).toList
      = [' '].intercalate words := by
  have hword (word : List Char) :
      Syntax.unescape (Escape.text (String.ofList word)).toList = word := by
    rw [Escape.toList_text, String.toList_ofList,
      Syntax.unescape_escapeChars Escape.isSpecial_backslash]
  have hspace : " ".toList = [' '] := rfl
  rw [textOf, String.toList_intercalate, hspace]
  simp only [List.map_map, Function.comp_def, String.toList_ofList, hword, List.map_id']

/-- A word that is searched for counts, is its own token and is no stop word. -/
theorem isCounted_of_mem_searched {stopwords : Stopwords} {text : String} {token : List Char}
    (h : token ∈ stopwords.searched text) :
    IsCounted token ∧ tokenOf token = token ∧ stopwords.words.contains token = false := by
  obtain ⟨hmem, hkeep⟩ := List.mem_filter.mp h
  obtain ⟨word, hword, htoken⟩ := List.mem_map.mp hmem
  rw [← htoken] at hkeep ⊢
  obtain ⟨hne, hstop⟩ := Bool.and_eq_true_iff.mp hkeep
  have hcounted : IsCounted word := by
    rw [← Text.pieces_eq_splitOnP] at hword
    refine ⟨Text.isSpace_of_mem_pieces hword, ?_⟩
    -- of commas only, nothing would be left
    by_contra hcommas
    have hnil : Text.strip (· == ',') word = [] :=
      withoutCommas_eq_nil.mpr (Bool.not_eq_false _ ▸ hcommas)
    rw [hnil] at hne
    cases hne
  obtain ⟨hcountedToken, hself⟩ := isCounted_tokenOf hcounted
  exact ⟨hcountedToken, hself, Bool.not_eq_true' _ ▸ hstop⟩

/-- The words that are kept are kept again, and none of them is dropped. -/
theorem tokenize_textOf_kept (stopwords : Stopwords) (text : String) :
    stopwords.tokenize (textOf (stopwords.tokenize text).kept)
      = ⟨(stopwords.tokenize text).kept, []⟩ := by
  have hsearched : ∀ token ∈ stopwords.searched text, IsCounted token ∧ tokenOf token = token ∧
      stopwords.words.contains token = false := fun _ => isCounted_of_mem_searched
  have hwords : countedWords (textOf (stopwords.tokenize text).kept).toList
      = stopwords.searched text := by
    rw [kept_tokenize, toList_textOf_escaped,
      Text.countedWords_intercalate fun token htoken => (hsearched token htoken).1]
  -- a token is compared in the form that its word was compared in
  have hcontains : ∀ token ∈ stopwords.searched text,
      stopwords.contains (String.ofList (withoutCommas token)) = false := by
    intro token htoken
    obtain ⟨-, hself, hstop⟩ := hsearched token htoken
    rw [contains_ofList_withoutCommas, hself, hstop]
  have hkept : (stopwords.searched text).filter (fun token =>
      !stopwords.contains (String.ofList (withoutCommas token))) = stopwords.searched text := by
    apply List.filter_eq_self.mpr
    intro token htoken
    rw [hcontains token htoken, Bool.not_false]
  have hdropped : (stopwords.searched text).filter (fun token =>
      stopwords.contains (String.ofList (withoutCommas token))) = [] := by
    apply List.filter_eq_nil_iff.mpr
    intro token htoken
    rw [hcontains token htoken]
    exact Bool.false_ne_true
  rw [tokenize_eq, hwords, hkept, hdropped, kept_tokenize, List.map_nil, Tokens.mk.injEq]
  refine ⟨List.map_congr_left fun token htoken => ?_, rfl⟩
  rw [(hsearched token htoken).2.1]

/-- Lists of the same words tokenize every text alike. -/
theorem tokenize_congr {stopwords other : Stopwords} (h : SameWords stopwords other)
    (text : String) : stopwords.tokenize text = other.tokenize text := by
  rw [tokenize_eq, tokenize_eq, h.contains_eq]

/-- **Texts are tokenized word by word.** -/
theorem tokenize_word_by_word :
    (∀ (stopwords : Stopwords) (first between second : String),
      between ≠ "" → Text.isBlank between = true →
      stopwords.tokenize (first ++ between ++ second)
        = stopwords.tokenize first ++ stopwords.tokenize second) ∧
    (∀ (stopwords : Stopwords) (text : String),
      stopwords.tokenize (textOf (stopwords.tokenize text).kept)
        = ⟨(stopwords.tokenize text).kept, []⟩) ∧
    (∀ (stopwords : Stopwords) (text : String),
      let isDropped (word : List Char) : Bool :=
        stopwords.contains (String.ofList (withoutCommas word))
      stopwords.tokenize text = {
        kept := ((countedWords text.toList).filter (!isDropped ·)).map fun word =>
          Escape.text (String.ofList (tokenOf word))
        dropped := ((countedWords text.toList).filter isDropped).map fun word =>
          String.ofList (tokenOf word) }) ∧
    ∀ stopwords other : Stopwords, SameWords stopwords other →
      ∀ text, stopwords.tokenize text = other.tokenize text :=
  ⟨fun stopwords first _ second hne hblank =>
      stopwords.tokenize_append_append hne hblank first second,
    tokenize_textOf_kept, tokenize_eq, fun _ _ => tokenize_congr⟩

/-- Stop words that are given in capitals and with white space around them, and
a word that ends in the capital letter whose lower case depends on its place. -/
theorem tokenize_word_by_word_sigma :
    let stopwords := custom ["The", " OF ", ""]
    let other := custom ["of", "the", "OF"]
    ("\t " ≠ "" ∧ Text.isBlank "\t " = true ∧ SameWords stopwords other) ∧
    stopwords.tokenize ("the,, ΟΔΟΣ," ++ "\t " ++ ",, of A-B")
      = ⟨["οδος"], ["the"]⟩ ++ ⟨["a\\-b"], ["of"]⟩ ∧
    stopwords.tokenize (textOf ["οδος", "a\\-b"]) = ⟨["οδος", "a\\-b"], []⟩ ∧
    other.tokenize "the,, ΟΔΟΣ,\t ,, of A-B" = ⟨["οδος", "a\\-b"], ["the", "of"]⟩ := by
  intro stopwords other
  obtain ⟨happend, hagain, -, hsame⟩ := tokenize_word_by_word
  have hne : "\t " ≠ "" := by decide
  have hblank : Text.isBlank "\t " = true := by decide
  have hfirst : stopwords.tokenize "the,, ΟΔΟΣ," = ⟨["οδος"], ["the"]⟩ := by decide +kernel
  have hsecond : stopwords.tokenize ",, of A-B" = ⟨["a\\-b"], ["of"]⟩ := by decide +kernel
  have hwords : SameWords stopwords other := by
    have hleft : stopwords.entries.map canonical = [['t', 'h', 'e'], ['o', 'f'], []] := by
      decide +kernel
    have hright : other.entries.map canonical = [['o', 'f'], ['t', 'h', 'e'], ['o', 'f']] := by
      decide +kernel
    intro word hword
    rw [hleft, hright]
    simp only [List.mem_cons, List.not_mem_nil, hword, or_false]
    exact ⟨fun h => h.elim (.inr ∘ .inl) .inl,
      fun h => h.elim .inr fun h => h.elim .inl .inr⟩
  have hall := happend stopwords "the,, ΟΔΟΣ," "\t " ",, of A-B" hne hblank
  rw [hfirst, hsecond] at hall
  have hkept := hagain stopwords ("the,, ΟΔΟΣ," ++ "\t " ++ ",, of A-B")
  rw [hall] at hkept
  refine ⟨⟨hne, hblank, hwords⟩, hall, hkept, ?_⟩
  exact (hsame stopwords other hwords _).symm.trans hall

end Stopwords

end SearchQuery
