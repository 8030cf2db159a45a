import SearchQuery.Query.Hybrid
import SearchQuery.Spec.Parts

/-!
# Defaults

The values of the settings that a query file leaves out. What stands in
the file always comes first.
-/

namespace SearchQuery

/-- What a setting is when a query file leaves it out. -/
structure Defaults where
  dialect : UInt32 := defaultDialect
  numResults : UInt64 := defaultResults
  alpha : Double := Query.Hybrid.defaultAlpha
  /-- The stop words of hybrid queries. -/
  stopwords : Stopwords := .english
deriving DecidableEq

namespace Defaults

/-- The names of the entries. -/
def names : List String := ["dialect", "num_results", "alpha", "stopwords"]

/-- The defaults of entries, a format's own nothing beside the name of stop
words. -/
def ofEntries? (isNothing : Document → Bool) (entries : List (String × Document)) :
    Option Defaults := do
  let dialect ← Document.withDefault entries "dialect" defaultDialect Document.dialect?
  let numResults ← Document.withDefault entries "num_results" defaultResults Document.count?
  let alpha ← Document.withDefault entries "alpha" Query.Hybrid.defaultAlpha Document.double?
  let stopwords ←
    Document.withDefault entries "stopwords" .english (Stopwords.ofDocument? isNothing)
  return { dialect, numResults, alpha, stopwords }

/-- The defaults of a document. -/
def ofDocument? (isNothing : Document → Bool) (d : Document) : Option Defaults := do
  ofEntries? isNothing (← d.entries? names)

/-- The entries of the defaults, with the number written as a format has
it. -/
def toEntries (number : Double → Document) (d : Defaults) : List (String × Document) := [
    ("dialect", .natural d.dialect.toNat),
    ("num_results", .natural d.numResults.toNat),
    ("alpha", number d.alpha),
    ("stopwords", d.stopwords.toDocument)
  ]

/-- The defaults as a document. -/
def toDocument (d : Defaults) : Document := .record (d.toEntries Document.ofDouble)

end Defaults

end SearchQuery
