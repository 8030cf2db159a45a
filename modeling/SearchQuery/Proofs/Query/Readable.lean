import SearchQuery.Proofs.Names
import SearchQuery.Proofs.Query.Clauses
import SearchQuery.Proofs.Syntax.Closed

/-!
# Reading a query for nearest neighbours

The query string of a query for nearest neighbours has up to eight optional
parts and takes text from the user in four places. It can still be read in
one way only (`queryString_eq_iff`): what it says (`Reading`) is the same for
two queries exactly when their query strings are.

The string is taken apart from both ends. Nothing after the last bracket
that opens can open another, so that bracket is the search's own. The words
in it have no spaces, so the spaces give them back, and each setting is told
by a word that no other setting has. In front of the bracket, a closed
restriction ends at the first space outside all delimiters; the clause after
it gives its field at the first colon and its words as the alternatives of a
list.
-/

namespace SearchQuery.Query

open SearchQuery.Syntax SearchQuery.Escape

/-! ## Where a text splits -/

section Splitting

variable {α : Type} {x : α} {as bs cs ds : List α}

/-- A text splits in one way before the first of a character. -/
theorem append_cons_inj (has : x ∉ as) (hcs : x ∉ cs) (h : as ++ x :: bs = cs ++ x :: ds) :
    as = cs ∧ bs = ds := by
  rcases List.append_eq_append_iff.mp h with ⟨more, rfl, hmore⟩ | ⟨more, rfl, hmore⟩
  · cases more with
    | nil => exact ⟨(List.append_nil as).symm, List.tail_eq_of_cons_eq hmore⟩
    | cons y more =>
      obtain rfl : x = y := List.head_eq_of_cons_eq hmore
      exact absurd (List.mem_append_right _ List.mem_cons_self) hcs
  · cases more with
    | nil => exact ⟨List.append_nil cs, (List.tail_eq_of_cons_eq hmore).symm⟩
    | cons y more =>
      obtain rfl : x = y := List.head_eq_of_cons_eq hmore
      exact absurd (List.mem_append_right _ List.mem_cons_self) has

/-- A text splits in one way behind the last of a character. -/
theorem append_cons_inj_last (hbs : x ∉ bs) (hds : x ∉ ds) (h : as ++ x :: bs = cs ++ x :: ds) :
    as = cs ∧ bs = ds := by
  have hreverse := congrArg List.reverse h
  simp only [List.reverse_append, List.reverse_cons, List.append_assoc, List.cons_append,
    List.nil_append] at hreverse
  obtain ⟨hright, hleft⟩ := append_cons_inj (mt List.mem_reverse.mp hbs)
    (mt List.mem_reverse.mp hds) hreverse
  exact ⟨List.reverse_injective hleft, List.reverse_injective hright⟩

/-- A list joined is its first part, and each other one behind a separator. -/
theorem intercalate_cons_eq_append_flatMap (between part : List α) (parts : List (List α)) :
    between.intercalate (part :: parts) = part ++ parts.flatMap (between ++ ·) := by
  induction parts generalizing part with
  | nil => rw [List.intercalate_singleton, List.flatMap_nil, List.append_nil]
  | cons next parts ih =>
    rw [List.intercalate_cons_cons, ih, List.flatMap_cons, List.append_assoc, List.append_assoc]

end Splitting

/-! ## Names -/

/-- A name without white space whose special characters are those of
paths. -/
def IsPlainName (name : String) : Prop :=
  ∀ c ∈ name.toList, Text.isSpace c = false ∧ (isSpecial c = true → c = '$' ∨ c = '.')

instance (name : String) : Decidable (IsPlainName name) :=
  List.decidableBAll _ name.toList

namespace IsPlainName

variable {name other : String}

/-- The reference to a plain name has no character that delimits. -/
theorem notMem_field (h : IsPlainName name) {c : Char}
    (hc : Text.isSpace c = true ∨ isSpecial c = true)
    (hne : c ≠ '$' ∧ c ≠ '.' ∧ c ≠ '\\' := by decide) : c ∉ (field name).toList := by
  obtain ⟨hdollar, hpoint, hescape⟩ := hne
  have hname : c ∉ name.toList := by
    intro hmem
    obtain ⟨hspace, hspecial⟩ := h c hmem
    rcases hc with hc | hc
    · rw [hspace] at hc
      cases hc
    · rcases hspecial hc with rfl | rfl
      · exact hdollar rfl
      · exact hpoint rfl
  unfold field
  split
  · rw [String.toList_ofList]
    intro hmem
    rcases mem_escapeChars hmem with hmem | hmem
    · exact hescape hmem
    · exact hname hmem
  · exact hname

/-- A plain name has no backslash, so what follows one in its escaped form is
its own. -/
theorem backslash_notMem (h : IsPlainName name) : '\\' ∉ name.toList := by
  intro hmem
  rcases (h _ hmem).2 isSpecial_backslash with hc | hc
  · cases hc
  · cases hc

/-- The reference without its backslashes is the name. -/
theorem filter_field (h : IsPlainName name) :
    (field name).toList.filter (· != '\\') = name.toList := by
  have hplain := h.backslash_notMem
  unfold field
  split
  · rw [String.toList_ofList, filter_escapeChars hplain]
  · rw [List.filter_eq_self]
    intro c hc
    refine bne_iff_ne.mpr ?_
    rintro rfl
    exact hplain hc

/-- Two plain names with one reference are one name. -/
theorem eq_of_field_eq (h : IsPlainName name) (hother : IsPlainName other)
    (heq : (field name).toList = (field other).toList) : name = other := by
  rw [← String.toList_inj, ← h.filter_field, heq, hother.filter_field]

end IsPlainName

namespace TextClause

/-- A clause is read back from its text: the field ends at the first colon,
and the words are the alternatives of the list. -/
theorem render_inj {field field' : String} {words words' : List (List Char)}
    (hfield : IsPlainName field) (hfield' : IsPlainName field')
    (hwords : words ≠ []) (hwords' : words' ≠ [])
    (h : render ⟨field, words.map fun word => Escape.text (String.ofList word)⟩
      = render ⟨field', words'.map fun word => Escape.text (String.ofList word)⟩) :
    field = field' ∧ words = words' := by
  have hlist := congrArg String.toList h
  simp only [render, String.toList_append, toList_joinWords, List.append_assoc] at hlist
  obtain ⟨href, hrest⟩ := append_cons_inj (hfield.notMem_field (by decide))
    (hfield'.notMem_field (by decide)) (List.append_cancel_left hlist)
  have hjoined := List.append_cancel_right (@List.append_cancel_left _ ['('] _ _ hrest)
  refine ⟨hfield.eq_of_field_eq hfield' href, ?_⟩
  rw [← (isListOf_joined hwords).map_char, hjoined, (isListOf_joined hwords').map_char]

end TextClause

namespace Nearest

/-! ## What a query string says -/

/-- What the query string of a query says. -/
structure Reading where
  restriction : String
  /-- The field and the words of the text clause. -/
  textClause : Option TextClause
  vectorField : String
  /-- Which settings take their value from a placeholder. -/
  efRuntime : Bool
  searchWindowSize : Bool
  useSearchHistory : Bool
  searchBufferCapacity : Bool
  hybridPolicy : Option Policy
  batchSize : Option UInt64
  returnScore : Bool
deriving DecidableEq

/-- What a query says. -/
def reading (query : Nearest) : Reading where
  restriction := query.restriction.build
  textClause := query.textClause
  vectorField := query.vector.field
  efRuntime := query.tuning.efRuntime.isSome
  searchWindowSize := query.tuning.searchWindowSize.isSome
  useSearchHistory := query.tuning.useSearchHistory.isSome
  searchBufferCapacity := query.tuning.searchBufferCapacity.isSome
  hybridPolicy := query.tuning.hybridPolicy
  batchSize := query.tuning.batchSize
  returnScore := query.returnScore

/-- What the user chose does not pass for syntax of the query string itself:
the restriction is closed and the names are plain. The text of the clause may
be any. -/
structure IsReadable (query : Nearest) : Prop where
  isClosed_restriction : isClosed query.restriction.build.toList = true
  isPlainName_vector : IsPlainName query.vector.field
  isPlainName_clause : ∀ clause ∈ query.textClause, IsPlainName clause.field

/-! ## The words in the brackets -/

/-- Words that stand in the brackets on a condition. -/
def onlyIf (given : Bool) (words : List String) : List String := if given then words else []

/-- The word of a batch size. -/
def sizeWord (size : UInt64) : String := toString size.toNat

/-- The words of the policy and its batch size. -/
def policyWords (policy : Option Policy) (batchSize : Option UInt64) : List String :=
  match policy with
  | none => []
  | some policy =>
    "HYBRID_POLICY" :: policy.name ::
      match batchSize with
      | some size => ["BATCH_SIZE", sizeWord size]
      | none => []

namespace Reading

/-- The words behind the vector. -/
def settingWords (r : Reading) : List String :=
  onlyIf r.efRuntime ["EF_RUNTIME", "$EF_RUNTIME"]
    ++ onlyIf r.searchWindowSize ["SEARCH_WINDOW_SIZE", "$SEARCH_WINDOW_SIZE"]
    ++ onlyIf r.useSearchHistory ["USE_SEARCH_HISTORY", "$USE_SEARCH_HISTORY"]
    ++ onlyIf r.searchBufferCapacity ["SEARCH_BUFFER_CAPACITY", "$SEARCH_BUFFER_CAPACITY"]
    ++ policyWords r.hybridPolicy r.batchSize
    ++ onlyIf r.returnScore ["AS", distanceAlias]

/-- The words in the brackets. -/
def words (r : Reading) : List String :=
  "KNN" :: "$K" :: ("@" ++ field r.vectorField) :: "$vec" :: r.settingWords

end Reading

/-- Words with a space before each. -/
def spaced (words : List String) : List Char := words.flatMap fun word => ' ' :: word.toList

/-- Words with a space before each are spaced one row behind the other. -/
theorem spaced_append (words others : List String) :
    spaced (words ++ others) = spaced words ++ spaced others := List.flatMap_append

/-- A setting of the index is two words, its name and its placeholder, or
none. -/
theorem toList_bound (name : String) (given : Bool) :
    (Tuning.bound name given).toList = spaced (onlyIf given [name, "$" ++ name]) := by
  cases given with
  | false => rfl
  | true => simp [Tuning.bound, spaced, onlyIf]

/-- The policy is written in words, with the batch size if it has one. -/
theorem toList_policyClause (tuning : Tuning) :
    tuning.policyClause.toList = spaced (policyWords tuning.hybridPolicy tuning.batchSize) := by
  unfold Tuning.policyClause policyWords
  cases tuning.hybridPolicy with
  | none => rfl
  | some policy => cases tuning.batchSize <;> simp [spaced, sizeWord]

/-- What stands behind the vector is words with a space before each. -/
theorem toList_settings (query : Nearest) :
    (query.tuning.clause ++ if query.returnScore then " AS " ++ distanceAlias else "").toList
      = spaced query.reading.settingWords := by
  have hscore : (if query.returnScore then " AS " ++ distanceAlias else "").toList
      = spaced (onlyIf query.returnScore ["AS", distanceAlias]) := by
    cases query.returnScore <;> rfl
  simp only [Tuning.clause, String.toList_append, toList_bound, toList_policyClause, hscore,
    Reading.settingWords, spaced_append, reading]
  rfl

/-- A query string is what is restricted by, an arrow, and the words of the
search in brackets. -/
theorem toList_queryString (query : Nearest) :
    query.queryString.toList
      = (query.restriction.build.toList ++ query.clausePart.toList ++ ['=', '>'])
        ++ '[' :: ([' '].intercalate (query.reading.words.map String.toList) ++ [']']) := by
  have hsettings := query.toList_settings
  rw [String.toList_append] at hsettings
  have hwords : [' '].intercalate (query.reading.words.map String.toList)
      = "KNN $K @".toList ++ (field query.vector.field).toList ++ " $vec".toList
        ++ spaced query.reading.settingWords := by
    rw [Reading.words, List.map_cons, intercalate_cons_eq_append_flatMap]
    simp [spaced, List.flatMap_map, reading]
  rw [hwords, ← hsettings]
  simp [queryString, neighboursParam, vectorParam]

/-! ## Reading the words back -/

/-- A character of the words in the brackets: none that ends a word or opens
brackets. -/
def isWordChar (c : Char) : Bool := c != ' ' && c != '['

/-- A digit may stand in a word. -/
theorem isWordChar_of_isDigit {c : Char} (h : c.isDigit = true) : isWordChar c = true := by
  unfold isWordChar
  rw [Bool.and_eq_true_iff, bne_iff_ne, bne_iff_ne]
  constructor
  · rintro rfl
    exact absurd h (by decide)
  · rintro rfl
    exact absurd h (by decide)

/-- A size is a word of digits. -/
theorem all_isDigit_sizeWord (size : UInt64) :
    (sizeWord size).toList.all Char.isDigit = true := by
  rw [sizeWord, Nat.toString_eq_repr, Nat.toList_repr, List.all_eq_true]
  intro c hc
  exact Nat.isDigit_of_mem_toDigits (by decide) (by decide) hc

/-- Sizes are told apart by their words. -/
theorem sizeWord_inj {size other : UInt64} : sizeWord size = sizeWord other ↔ size = other := by
  constructor
  · intro h
    exact UInt64.toNat_inj.mp (numbered_injective "" (congrArg ("" ++ ·) h))
  · rintro rfl
    rfl

/-- A word of a batch size is no other word. -/
theorem sizeWord_ne {word : String} (h : word.toList.all Char.isDigit = false) (size : UInt64) :
    sizeWord size ≠ word := by
  rintro rfl
  rw [all_isDigit_sizeWord] at h
  cases h

/-- Words that may be left out are there when they were given. -/
theorem mem_onlyIf {given : Bool} {words : List String} {word : String} :
    word ∈ onlyIf given words ↔ given = true ∧ word ∈ words := by
  cases given <;> simp [onlyIf]

/-- The words of a policy are its keyword, its name, and the batch size with its
keyword. -/
theorem mem_policyWords {word : String} {policy : Option Policy} {batchSize : Option UInt64} :
    word ∈ policyWords policy batchSize ↔ ∃ given, policy = some given ∧
      (word = "HYBRID_POLICY" ∨ word = given.name ∨
        ∃ size, batchSize = some size ∧ (word = "BATCH_SIZE" ∨ word = sizeWord size)) := by
  cases policy <;> cases batchSize <;> simp [policyWords]

/-- The name of a policy is a word of that policy alone. -/
theorem name_mem_policyWords {given : Policy} {policy : Option Policy}
    {batchSize : Option UInt64} :
    given.name ∈ policyWords policy batchSize ↔ policy = some given := by
  have hsize (size : UInt64) : given.name ≠ sizeWord size :=
    (sizeWord_ne (by cases given <;> decide) size).symm
  rw [mem_policyWords]
  cases policy with
  | none => simp
  | some policy => cases given <;> cases policy <;> simp +decide [hsize]

/-- A number is a word of its own batch size alone, and only a policy has
one. -/
theorem sizeWord_mem_policyWords {size : UInt64} {policy : Option Policy}
    {batchSize : Option UInt64} : sizeWord size ∈ policyWords policy batchSize ↔
      policy.isSome = true ∧ batchSize = some size := by
  rw [mem_policyWords]
  cases policy with
  | none => simp
  | some policy =>
    have hname : sizeWord size ≠ policy.name := sizeWord_ne (by cases policy <;> decide) size
    have hpolicy : sizeWord size ≠ "HYBRID_POLICY" := sizeWord_ne (by decide) size
    have hbatch : sizeWord size ≠ "BATCH_SIZE" := sizeWord_ne (by decide) size
    simp [hname, hpolicy, hbatch, sizeWord_inj]

/-- A word that is neither a number nor one of these four is no word of a
policy. -/
theorem notMem_policyWords (word : String) (hdigit : word.toList.all Char.isDigit = false)
    (hword : word ∉ ["HYBRID_POLICY", "BATCHES", "ADHOC_BF", "BATCH_SIZE"])
    (policy : Option Policy) (batchSize : Option UInt64) :
    word ∉ policyWords policy batchSize := by
  simp only [List.mem_cons, List.not_mem_nil, or_false, not_or] at hword
  obtain ⟨hpolicy, hbatches, hadhoc, hbatch⟩ := hword
  rw [mem_policyWords]
  rintro ⟨given, -, h | h | ⟨size, -, h | h⟩⟩
  · exact hpolicy h
  · cases given with
    | batches => exact hbatches h
    | adhoc => exact hadhoc h
  · exact hbatch h
  · exact sizeWord_ne hdigit size h.symm

namespace Reading

/-- Each setting is told by a word that no other setting has. -/
theorem mem_settingWords (r : Reading) :
    ("EF_RUNTIME" ∈ r.settingWords ↔ r.efRuntime = true) ∧
    ("SEARCH_WINDOW_SIZE" ∈ r.settingWords ↔ r.searchWindowSize = true) ∧
    ("USE_SEARCH_HISTORY" ∈ r.settingWords ↔ r.useSearchHistory = true) ∧
    ("SEARCH_BUFFER_CAPACITY" ∈ r.settingWords ↔ r.searchBufferCapacity = true) ∧
    (∀ policy : Policy, policy.name ∈ r.settingWords ↔ r.hybridPolicy = some policy) ∧
    (∀ size : UInt64, sizeWord size ∈ r.settingWords ↔
      r.hybridPolicy.isSome = true ∧ r.batchSize = some size) ∧
    ("AS" ∈ r.settingWords ↔ r.returnScore = true) := by
  have hnot := notMem_policyWords
  simp only [settingWords, List.mem_append, mem_onlyIf, name_mem_policyWords,
    sizeWord_mem_policyWords]
  refine ⟨?_, ?_, ?_, ?_, ?_, ?_, ?_⟩
  · simp +decide [hnot "EF_RUNTIME" (by decide) (by decide)]
  · simp +decide [hnot "SEARCH_WINDOW_SIZE" (by decide) (by decide)]
  · simp +decide [hnot "USE_SEARCH_HISTORY" (by decide) (by decide)]
  · simp +decide [hnot "SEARCH_BUFFER_CAPACITY" (by decide) (by decide)]
  · rintro (_ | _) <;> simp +decide
  · intro size
    -- no fixed word is a number
    have hfixed (words : List String) (h : ∀ word ∈ words, word.toList.all Char.isDigit = false) :
        sizeWord size ∉ words := fun hmem => sizeWord_ne (h _ hmem) size rfl
    simp only [hfixed ["EF_RUNTIME", "$EF_RUNTIME"] (by decide),
      hfixed ["SEARCH_WINDOW_SIZE", "$SEARCH_WINDOW_SIZE"] (by decide),
      hfixed ["USE_SEARCH_HISTORY", "$USE_SEARCH_HISTORY"] (by decide),
      hfixed ["SEARCH_BUFFER_CAPACITY", "$SEARCH_BUFFER_CAPACITY"] (by decide),
      hfixed ["AS", distanceAlias] (by decide), and_false, false_or, or_false]
  · simp +decide [hnot "AS" (by decide) (by decide)]

/-- The settings are read back from their words, if only a policy has a
batch size. -/
theorem eq_of_settingWords_eq {r r' : Reading}
    (hbatch : r.batchSize.isSome = true → r.hybridPolicy.isSome = true)
    (hbatch' : r'.batchSize.isSome = true → r'.hybridPolicy.isSome = true)
    (hrestriction : r.restriction = r'.restriction) (hclause : r.textClause = r'.textClause)
    (hfield : r.vectorField = r'.vectorField) (h : r.settingWords = r'.settingWords) :
    r = r' := by
  obtain ⟨hef, hwindow, hhistory, hbuffer, hpolicy, hsize, hscore⟩ := r.mem_settingWords
  obtain ⟨hef', hwindow', hhistory', hbuffer', hpolicy', hsize', hscore'⟩ := r'.mem_settingWords
  rw [h] at hef hwindow hhistory hbuffer hscore
  simp only [h, hpolicy', hsize'] at hpolicy hsize
  -- a batch size is one of its numeral, since it never stands without a policy
  have hgiven {r : Reading} (hr : r.batchSize.isSome = true → r.hybridPolicy.isSome = true)
      (size : UInt64) :
      r.hybridPolicy.isSome = true ∧ r.batchSize = some size ↔ r.batchSize = some size :=
    and_iff_right_of_imp fun hsome => hr (by rw [hsome]; rfl)
  have hsizes (size : UInt64) : r.batchSize = some size ↔ r'.batchSize = some size := by
    rw [← hgiven hbatch, ← hgiven hbatch', hsize]
  have hpolicies : r.hybridPolicy = r'.hybridPolicy :=
    Option.ext fun policy => (hpolicy policy).symm
  have hbatches : r.batchSize = r'.batchSize := Option.ext hsizes
  cases r
  cases r'
  simp only [Reading.mk.injEq]
  exact ⟨hrestriction, hclause, hfield, Bool.eq_iff_iff.mpr (hef.symm.trans hef'),
    Bool.eq_iff_iff.mpr (hwindow.symm.trans hwindow'),
    Bool.eq_iff_iff.mpr (hhistory.symm.trans hhistory'),
    Bool.eq_iff_iff.mpr (hbuffer.symm.trans hbuffer'), hpolicies, hbatches,
    Bool.eq_iff_iff.mpr (hscore.symm.trans hscore')⟩

/-- No word ends or opens brackets before its last character. -/
theorem isWordChar_of_mem_words {r : Reading} (h : IsPlainName r.vectorField) :
    ∀ word ∈ r.words, word.toList.all isWordChar = true := by
  have honlyIf {given : Bool} {word other : String} (hword : word.toList.all isWordChar = true)
      (hother : other.toList.all isWordChar = true) :
      ∀ w ∈ onlyIf given [word, other], w.toList.all isWordChar = true := by
    intro w hw
    obtain ⟨-, hmem⟩ := mem_onlyIf.mp hw
    rcases List.mem_cons.mp hmem with rfl | hmem
    · exact hword
    · rw [List.mem_singleton.mp hmem]
      exact hother
  have hpolicy : ∀ word ∈ policyWords r.hybridPolicy r.batchSize,
      word.toList.all isWordChar = true := by
    intro word hword
    obtain ⟨policy, -, rfl | rfl | ⟨size, -, rfl | rfl⟩⟩ := mem_policyWords.mp hword
    · decide
    · cases policy <;> decide
    · decide
    · refine List.all_eq_true.mpr fun c hc => ?_
      exact isWordChar_of_isDigit (List.all_eq_true.mp (all_isDigit_sizeWord size) c hc)
  have hfield : ("@" ++ field r.vectorField).toList.all isWordChar = true := by
    rw [String.toList_append, List.all_append, Bool.and_eq_true_iff]
    refine ⟨by decide, List.all_eq_true.mpr ?_⟩
    intro c hc
    rw [isWordChar, Bool.and_eq_true_iff, bne_iff_ne, bne_iff_ne]
    constructor
    · rintro rfl
      exact h.notMem_field (by decide) (by decide) hc
    · rintro rfl
      exact h.notMem_field (by decide) (by decide) hc
  simp only [words, List.forall_mem_cons, settingWords, List.forall_mem_append]
  exact ⟨by decide, by decide, hfield, by decide, ⟨⟨⟨⟨honlyIf (by decide) (by decide),
    honlyIf (by decide) (by decide)⟩, honlyIf (by decide) (by decide)⟩,
    honlyIf (by decide) (by decide)⟩, hpolicy⟩, honlyIf (by decide) (by decide)⟩

end Reading

/-- The words in the brackets are read back, and what stands in front of the
brackets is left. -/
theorem words_eq_of_queryString_eq {query query' : Nearest}
    (h : IsPlainName query.vector.field) (h' : IsPlainName query'.vector.field)
    (heq : query.queryString = query'.queryString) :
    query.restriction.build.toList ++ query.clausePart.toList
      = query'.restriction.build.toList ++ query'.clausePart.toList ∧
    query.reading.words = query'.reading.words := by
  have hchars {r : Reading} (hname : IsPlainName r.vectorField) :
      ∀ part ∈ r.words.map String.toList, ∀ c ∈ part, c ≠ ' ' ∧ c ≠ '[' := by
    simpa [isWordChar] using Reading.isWordChar_of_mem_words hname
  have hbracket {r : Reading} (hname : IsPlainName r.vectorField) :
      '[' ∉ [' '].intercalate (r.words.map String.toList) ++ [']'] := by
    rw [List.mem_append, not_or]
    refine ⟨?_, by decide⟩
    intro hmem
    exact forall_mem_intercalate (List.forall_mem_singleton.mpr (by decide))
      (fun part hpart c hc => (hchars hname part hpart c hc).2) '[' hmem rfl
  have hsplit {r : Reading} (hname : IsPlainName r.vectorField) :
      ([' '].intercalate (r.words.map String.toList)).splitOn ' ' = r.words.map String.toList :=
    List.splitOn_intercalate ' ' (fun part hpart hmem => (hchars hname part hpart ' ' hmem).1 rfl)
      (List.cons_ne_nil _ _)
  have hstring := congrArg String.toList heq
  rw [toList_queryString, toList_queryString] at hstring
  obtain ⟨hfront, hwords⟩ := append_cons_inj_last (hbracket h) (hbracket h') hstring
  refine ⟨List.append_cancel_right hfront, ?_⟩
  have hparts := congrArg (List.splitOn ' ') (List.append_cancel_right hwords)
  rw [hsplit h, hsplit h'] at hparts
  exact List.map_injective_iff.mpr (fun _ _ => String.toList_inj.mp) hparts

/-! ## Reading the restriction and the clause back -/

/-- A text clause comes behind a space, or there is none, so a restriction is
read up to it. -/
theorem halts_clausePart (query : Nearest) : Halts query.clausePart.toList := by
  unfold clausePart
  cases query.textClause with
  | none => exact halts_nil
  | some clause =>
    rw [String.toList_append]
    exact halts_space _

/-- A closed restriction ends where the clause begins. -/
theorem restriction_eq_of_append_eq {query query' : Nearest}
    (h : isClosed query.restriction.build.toList = true)
    (h' : isClosed query'.restriction.build.toList = true)
    (heq : query.restriction.build.toList ++ query.clausePart.toList
      = query'.restriction.build.toList ++ query'.clausePart.toList) :
    query.restriction.build = query'.restriction.build ∧ query.clausePart = query'.clausePart := by
  obtain ⟨hrestriction, hclause⟩ :=
    isClosed_append_inj h h' query.halts_clausePart query'.halts_clausePart heq
  exact ⟨String.toList_inj.mp hrestriction, String.toList_inj.mp hclause⟩

/-! ## Queries that were built -/

/-- What the checks of a build leave of the tuning and the clause. -/
structure IsBuilt (query : Nearest) : Prop where
  /-- Only a policy has a batch size. -/
  hybridPolicy_isSome :
    query.tuning.batchSize.isSome = true → query.tuning.hybridPolicy.isSome = true
  /-- A clause has words, and they are escaped. -/
  exists_words : ∀ clause ∈ query.textClause, ∃ words ≠ [],
    clause.words = words.map fun word => Escape.text (String.ofList word)

/-- A query that was built has what its reading relies on. -/
theorem Draft.isBuilt {draft : Draft} {query : Nearest} (h : draft.build = .ok query) :
    query.IsBuilt := by
  obtain ⟨htuning, textClause, hclause, options, -, rfl⟩ := build_eq_ok.mp h
  refine ⟨?_, ?_⟩
  · intro hbatch
    have hpolicy := (Tuning.check_eq_ok.mp htuning).batches hbatch
    exact Option.isSome_of_eq_some hpolicy
  · rintro clause hmem
    cases hmem
    cases hgiven : draft.textClause with
    | none =>
      rw [hgiven] at hclause
      cases hclause
    | some given =>
      rw [hgiven] at hclause
      obtain ⟨made, hmade, hsome⟩ := bind_eq_ok.mp hclause
      obtain rfl : made = clause := Option.some.inj (pure_eq_ok.mp hsome)
      obtain ⟨-, words, hwords, rfl⟩ := TextClause.make_eq_ok.mp hmade
      obtain ⟨hne, rfl⟩ := Stopwords.wordsOf_eq_ok.mp hwords
      exact ⟨_, hne, rfl⟩

/-- A clause is read back from its part of the query string. -/
theorem textClause_eq_of_clausePart_eq {query query' : Nearest} (hbuilt : query.IsBuilt)
    (hbuilt' : query'.IsBuilt) (hread : query.IsReadable) (hread' : query'.IsReadable)
    (h : query.clausePart = query'.clausePart) : query.textClause = query'.textClause := by
  have hname := hread.isPlainName_clause
  have hname' := hread'.isPlainName_clause
  have hwords := hbuilt.exists_words
  have hwords' := hbuilt'.exists_words
  unfold clausePart at h
  cases hclause : query.textClause with
  | none =>
    cases hclause' : query'.textClause with
    | none => rfl
    | some clause' =>
      rw [hclause, hclause'] at h
      exact absurd (congrArg String.toList h) (by simp)
  | some clause =>
    cases hclause' : query'.textClause with
    | none =>
      rw [hclause, hclause'] at h
      exact absurd (congrArg String.toList h) (by simp)
    | some clause' =>
      obtain ⟨words, hne, hescaped⟩ := hwords clause hclause
      obtain ⟨words', hne', hescaped'⟩ := hwords' clause' hclause'
      obtain ⟨field, _⟩ := clause
      obtain ⟨field', _⟩ := clause'
      subst hescaped hescaped'
      rw [hclause, hclause'] at h
      have hrender := @List.append_cancel_left _ [' '] _ _ (by simpa using congrArg String.toList h)
      obtain ⟨hfield, hlist⟩ := TextClause.render_inj (hname _ hclause) (hname' _ hclause') hne hne'
        (String.toList_inj.mp hrender)
      simp only at hfield
      rw [hfield, hlist]

/-! ## Unique readability -/

/-- **The query string of a query for nearest neighbours can be read in one
way**: of two queries that were built, whose restrictions are closed and whose
names are plain, the query strings are the same exactly when they say the
same. -/
theorem queryString_eq_iff {draft draft' : Draft} {query query' : Nearest}
    (h : draft.build = .ok query) (h' : draft'.build = .ok query')
    (hread : query.IsReadable) (hread' : query'.IsReadable) :
    query.queryString = query'.queryString ↔ query.reading = query'.reading := by
  have hbuilt := Draft.isBuilt h
  have hbuilt' := Draft.isBuilt h'
  constructor
  · intro heq
    obtain ⟨hfront, hwords⟩ :=
      words_eq_of_queryString_eq hread.isPlainName_vector hread'.isPlainName_vector heq
    obtain ⟨hrestriction, hpart⟩ := restriction_eq_of_append_eq hread.isClosed_restriction
      hread'.isClosed_restriction hfront
    have hclause := textClause_eq_of_clausePart_eq hbuilt hbuilt' hread hread' hpart
    simp only [Reading.words, List.cons.injEq, true_and] at hwords
    obtain ⟨hreference, hsettings⟩ := hwords
    have href := congrArg String.toList hreference
    rw [String.toList_append, String.toList_append] at href
    have hfield := hread.isPlainName_vector.eq_of_field_eq hread'.isPlainName_vector
      (List.append_cancel_left href)
    exact Reading.eq_of_settingWords_eq hbuilt.hybridPolicy_isSome hbuilt'.hybridPolicy_isSome
      hrestriction hclause hfield hsettings
  · intro heq
    simp only [reading, Reading.mk.injEq] at heq
    obtain ⟨hrestriction, hclause, hfield, hef, hwindow, hhistory, hbuffer, hpolicy, hbatch,
      hscore⟩ := heq
    simp only [queryString, clausePart, Tuning.clause, Tuning.policyClause, *]

/-- A restriction that has the form of a whole query string, and a clause
whose text has it: each is told from the other. -/
theorem queryString_eq_iff_disguised :
    let vector : Embedding := {
      values := [Binary.zero]
      field := "$.embedding"
      dtype := .float32
      weight := Binary.zero
      payload := [0, 0, 0, 0]
    }
    let draft : Draft := {
      vector
      restriction := .raw "@title:(go=>[KNN $K @e $vec AS d])"
      tuning := { efRuntime := some 10, hybridPolicy := some .batches, batchSize := some 7 }
    }
    let draft' : Draft := {
      vector
      textClause := some ("title", "go=>[KNN $K @e $vec AS d]")
      tuning := { efRuntime := some 20, hybridPolicy := some .batches, batchSize := some 7 }
    }
    ∃ query query', draft.build = .ok query ∧ draft'.build = .ok query' ∧
      query.IsReadable ∧ query'.IsReadable ∧ query.queryString ≠ query'.queryString := by
  intro vector draft draft'
  have hbuild : ∃ query, draft.build = .ok query ∧ query.IsReadable := by
    refine ⟨_, rfl, ?_, ?_, ?_⟩
    · decide
    · decide
    · rintro clause ⟨⟩
  have hbuild' : ∃ query, draft'.build = .ok query ∧ query.IsReadable := by
    refine ⟨_, rfl, ?_, ?_, ?_⟩
    · decide
    · decide
    · rintro clause ⟨⟩
      decide
  obtain ⟨query, hquery, hread⟩ := hbuild
  obtain ⟨query', hquery', hread'⟩ := hbuild'
  refine ⟨query, query', hquery, hquery', hread, hread', ?_⟩
  intro heq
  have hreading := (queryString_eq_iff hquery hquery' hread hread').mp heq
  cases hquery
  cases hquery'
  exact absurd (congrArg Reading.restriction hreading) (by decide)

end Nearest

end SearchQuery.Query
