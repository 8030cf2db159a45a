import SearchQuery.Escape
import SearchQuery.Text.Lowercase

/-!
# Search tokens

A text is searched by its words. A word stands between white space, loses
the commas around it and is lower-cased; a stop word is then dropped and
any other word is kept, escaped as a free-text term.
-/

namespace SearchQuery

/-- Common English words that carry no search signal. -/
def englishStopwords : List String := [
  "a", "about", "above", "after", "again", "against", "ain", "all", "am", "an", "and", "any",
  "are", "aren", "aren't", "as", "at", "be", "because", "been", "before", "being", "below",
  "between", "both", "but", "by", "can", "couldn", "couldn't", "d", "did", "didn", "didn't",
  "do", "does", "doesn", "doesn't", "doing", "don", "don't", "down", "during", "each", "few",
  "for", "from", "further", "had", "hadn", "hadn't", "has", "hasn", "hasn't", "have", "haven",
  "haven't", "having", "he", "her", "here", "hers", "herself", "him", "himself", "his", "how",
  "i", "if", "in", "into", "is", "isn", "isn't", "it", "it's", "its", "itself", "just", "ll",
  "m", "ma", "me", "mightn", "mightn't", "more", "most", "mustn", "mustn't", "my", "myself",
  "needn", "needn't", "no", "nor", "not", "now", "o", "of", "off", "on", "once", "only", "or",
  "other", "our", "ours", "ourselves", "out", "over", "own", "re", "s", "same", "shan",
  "shan't", "she", "she's", "should", "should've", "shouldn", "shouldn't", "so", "some", "such",
  "t", "than", "that", "that'll", "the", "their", "theirs", "them", "themselves", "then",
  "there", "these", "they", "this", "those", "through", "to", "too", "under", "until", "up",
  "ve", "very", "was", "wasn", "wasn't", "we", "were", "weren", "weren't", "what", "when",
  "where", "which", "while", "who", "whom", "why", "will", "with", "won", "won't", "wouldn",
  "wouldn't", "y", "you", "you'd", "you'll", "you're", "you've", "your", "yours", "yourself",
  "yourselves"
]

/-- Which words are dropped. -/
inductive Stopwords where
  | none
  | english
  | custom (words : List String)
deriving DecidableEq, Repr

/-- The words of a text: those kept are lower-cased and escaped, those
dropped lower-cased. -/
structure Tokens where
  kept : List String
  dropped : List String
deriving DecidableEq, Repr

namespace Tokens

/-- No word is left to search for. -/
def isEmpty (tokens : Tokens) : Bool := tokens.kept.isEmpty

/-- Words as alternatives of a text clause. -/
def joinWords (words : List String) : String := " | ".intercalate words

/-- The words kept, as alternatives. -/
def joined (tokens : Tokens) : String := joinWords tokens.kept

end Tokens

namespace Stopwords

/-- A stop word as it is compared. -/
def canonical (word : String) : List Char := Text.lower (Text.strip Text.isSpace word.toList)

/-- The words of a list as they are compared, blank ones left out. -/
def canonicalWords (words : List String) : List (List Char) :=
  (words.map canonical).filter fun word => !word.isEmpty

/-- The words that are dropped, as they are compared. -/
def words : Stopwords → List (List Char)
  | none => []
  | english => canonicalWords englishStopwords
  | custom words => canonicalWords words

/-- How many different words are dropped. -/
def count (stopwords : Stopwords) : Nat := stopwords.words.eraseDups.length

/-- A word, lower-cased, is one of those dropped. -/
def drops (stopwords : Stopwords) (word : List Char) : Bool :=
  stopwords.words.contains (Text.lower word)

/-- A word is one of those dropped. -/
def contains (stopwords : Stopwords) (word : String) : Bool := stopwords.drops word.toList

/-- A word without the commas around it. -/
def bare (word : List Char) : List Char :=
  Text.strip Text.isSpace (Text.strip (· == ',') word)

/-- The words of a text, without commas, that something is left of. -/
def bareWords (text : String) : List (List Char) :=
  ((Text.words text.toList).map bare).filter fun word => !word.isEmpty

/-- The words of a text, sorted into those kept and those dropped. -/
def tokenize (stopwords : Stopwords) (text : String) : Tokens :=
  let dropped := stopwords.words
  let lowered := (bareWords text).map Text.lower
  { kept := (lowered.filter (!dropped.contains ·)).map fun word => Escape.text (String.ofList word)
    dropped := (lowered.filter (dropped.contains ·)).map String.ofList }

end Stopwords

end SearchQuery
