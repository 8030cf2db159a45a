import SearchQuery.Proofs.Text.Strip
import SearchQuery.Query.Settings

/-!
# Searched words

The words of a text that are searched for, said in one line of standard
list functions (`Stopwords.searched`), and the proof that these are the
words that sorting a text into kept and dropped ones keeps.

Three things are done on the way that the one line leaves out: pieces
between white space are dropped as soon as they are empty, a word is trimmed
of white space that it cannot have, and it is looked at before it is
lower-cased and not after. None of them changes what is kept.
-/

namespace SearchQuery

namespace Text

/-! ## Pieces -/

/-- The pieces of a text are those between its white-space characters. -/
theorem pieces_eq_splitOnP (cs : List Char) : pieces cs = cs.splitOnP isSpace := by
  induction cs with
  | nil => rfl
  | cons c cs ih =>
    rw [pieces, List.splitOnP_cons_eq_if_modifyHead, ih]
    split
    · rfl
    · cases hsplit : cs.splitOnP isSpace with
      | nil => exact absurd hsplit (List.splitOnP_ne_nil _ _)
      | cons piece rest => rfl

/-- No piece has white space in it. -/
theorem isSpace_of_mem_pieces {cs piece : List Char} (h : piece ∈ pieces cs) :
    ∀ c ∈ piece, isSpace c = false := by
  induction cs generalizing piece with
  | nil =>
    rw [pieces, List.mem_singleton] at h
    subst h
    intro c hc
    cases hc
  | cons c cs ih =>
    rw [pieces] at h
    split at h
    · rcases List.mem_cons.mp h with rfl | h
      · intro d hd
        cases hd
      · exact ih h
    · next hc =>
      have hspace : isSpace c = false := Bool.eq_false_iff.mpr hc
      cases hpieces : pieces cs with
      | nil =>
        rw [hpieces, List.mem_singleton] at h
        subst h
        simpa using hspace
      | cons first rest =>
        rw [hpieces] at h
        rcases List.mem_cons.mp h with rfl | h
        · exact List.forall_mem_cons.mpr ⟨hspace, ih (hpieces ▸ List.mem_cons_self)⟩
        · exact ih (hpieces ▸ List.mem_cons_of_mem _ h)

/-! ## Lower-cased texts -/

theorem lowerChar_ne_nil (c : Char) : lowerChar c ≠ [] := by
  unfold lowerChar
  split
  · exact List.cons_ne_nil _ _
  · split <;> exact List.cons_ne_nil _ _

/-- A text is empty in lower case when it is empty. -/
theorem lower_eq_nil {cs : List Char} : lower cs = [] ↔ cs = [] := by
  constructor
  · intro h
    cases cs with
    | nil => rfl
    | cons c cs =>
      obtain ⟨hfirst, -⟩ := List.append_eq_nil_iff.mp h
      split at hfirst
      · split at hfirst <;> cases hfirst
      · exact absurd hfirst (lowerChar_ne_nil c)
  · rintro rfl
    rfl

end Text

namespace Stopwords

/-! ## The words of a text -/

/-- The words that a text is searched for: what stands between white space,
without the commas around it and in lower case, if anything is left of it
and it is not a stop word. -/
def searched (stopwords : Stopwords) (text : String) : List (List Char) :=
  ((text.toList.splitOnP Text.isSpace).map fun word =>
    Text.lower (Text.strip (· == ',') word)).filter fun word =>
      !word.isEmpty && !stopwords.words.contains word

/-- A piece of a text only loses its commas. -/
theorem bare_of_mem_pieces {cs piece : List Char} (h : piece ∈ Text.pieces cs) :
    bare piece = Text.strip (· == ',') piece :=
  Text.strip_eq_self fun c hc => Text.isSpace_of_mem_pieces h c (Text.mem_of_mem_strip hc)

/-- A piece is kept when something is left of it that is not a stop word. -/
theorem keeps_of_mem_pieces (stopwords : Stopwords) {cs piece : List Char}
    (h : piece ∈ Text.pieces cs) :
    (!stopwords.words.contains (Text.lower (bare piece))
        && (!(bare piece).isEmpty && !piece.isEmpty)) =
      (!(Text.lower (Text.strip (· == ',') piece)).isEmpty
        && !stopwords.words.contains (Text.lower (Text.strip (· == ',') piece))) := by
  have hlower : (Text.lower (bare piece)).isEmpty = (bare piece).isEmpty := by
    rw [Bool.eq_iff_iff, List.isEmpty_iff, List.isEmpty_iff, Text.lower_eq_nil]
  rw [← bare_of_mem_pieces h, hlower, Bool.and_comm]
  cases piece with
  | nil => rfl
  | cons c piece => rw [List.isEmpty_cons, Bool.not_false, Bool.and_true]

/-- The words that are kept are those that are searched for. -/
theorem filter_lower_bareWords (stopwords : Stopwords) (text : String) :
    ((bareWords text).map Text.lower).filter (!stopwords.words.contains ·)
      = stopwords.searched text := by
  rw [bareWords, Text.words, searched, ← Text.pieces_eq_splitOnP]
  simp only [List.filter_map, List.filter_filter, List.map_map, Function.comp_def]
  rw [List.filter_congr fun piece hpiece => stopwords.keeps_of_mem_pieces hpiece]
  refine List.map_congr_left fun piece hpiece => ?_
  rw [bare_of_mem_pieces (List.mem_filter.mp hpiece).1]

/-- The words kept are the words searched for, escaped. -/
theorem kept_tokenize (stopwords : Stopwords) (text : String) :
    (stopwords.tokenize text).kept =
      (stopwords.searched text).map fun word => Escape.text (String.ofList word) := by
  rw [← filter_lower_bareWords]
  rfl

/-- The words of a clause are the words searched for, if there are any. -/
theorem wordsOf_eq (stopwords : Stopwords) (text : String) :
    Query.TextClause.wordsOf stopwords text =
      if stopwords.searched text = [] then .error (.noTokens text)
      else .ok ((stopwords.searched text).map fun word => Escape.text (String.ofList word)) := by
  have hempty : (stopwords.tokenize text).isEmpty = true ↔ stopwords.searched text = [] := by
    rw [Tokens.isEmpty, kept_tokenize, List.isEmpty_iff, List.map_eq_nil_iff]
  rw [Query.TextClause.wordsOf, kept_tokenize]
  simp only [hempty]

/-- What a clause takes of a text is the words searched for, one at least. -/
theorem wordsOf_eq_ok {stopwords : Stopwords} {text : String} {words : List String} :
    Query.TextClause.wordsOf stopwords text = .ok words ↔ stopwords.searched text ≠ [] ∧
      (stopwords.searched text).map (fun word => Escape.text (String.ofList word)) = words := by
  rw [wordsOf_eq]
  split
  · next h =>
    constructor
    · intro herror
      cases herror
    · exact fun hwords => absurd h hwords.1
  · next h => exact ⟨fun hwords => ⟨h, Except.ok.inj hwords⟩, fun hwords => congrArg _ hwords.2⟩

end Stopwords

end SearchQuery
