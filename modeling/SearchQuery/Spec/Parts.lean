import SearchQuery.Document.Reading
import SearchQuery.Embedding
import SearchQuery.Sort
import SearchQuery.Tokens

/-!
# Parts of a specification

The settings that a specification file writes as something other than a
plain value: keywords, sort orders, stop words and vectors. Each has a
reader and a writer, and the reader takes what the writer gives.
-/

namespace SearchQuery

/-- The keyword that a document names. -/
def Keyword.ofDocument? {α : Type} [Keyword α] (d : Document) : Option α := do
  Keyword.find? (← d.text?)

/-- A keyword as a document. -/
def Keyword.toDocument {α : Type} [Keyword α] (a : α) : Document := .text (Keyword.name a)

/-! ## Sort orders -/

namespace SortKey

/-- The names of a key's entries. -/
def names : List String := ["field", "ascending"]

/-- The key of a document. Other entries are passed over. -/
def ofDocument? (d : Document) : Option SortKey := do
  let entries ← d.knownEntries? names
  let field ← Document.required entries "field" Document.text?
  let ascending ← Document.withDefault entries "ascending" true Document.bool?
  return { field, ascending }

/-- A key as a document. -/
def toDocument (key : SortKey) : Document :=
  .record [("field", .text key.field), ("ascending", .bool key.ascending)]

end SortKey

namespace SortSpec

/-- A field and a direction: a list of two texts. -/
def directed? : Document → Option SortSpec
  | .list [.text name, .text direction] => some (directed name direction)
  | _ => none

/-- The sort order of a document: a field, a field and a direction, a key,
or a list of keys. The first that fits is taken. -/
def ofDocument? (d : Document) : Option SortSpec :=
  (d.text?.map field)
    <|> directed? d
    <|> (SortKey.ofDocument? d).map key
    <|> (d.list? SortKey.ofDocument?).map keys

/-- A sort order as a document. -/
def toDocument : SortSpec → Document
  | field name => .text name
  | directed name direction => .list [.text name, .text direction]
  | key given => given.toDocument
  | keys given => Document.ofList SortKey.toDocument given

end SortSpec

/-! ## Stop words -/

/-- A document that carries nothing: null, or a record of no entries. -/
def Document.isNothing : Document → Bool
  | .null => true
  | .record [] => true
  | _ => false

namespace Stopwords

/-- The stop words of a document: a name, or a record of one entry. What
may stand beside the name of a list without words of its own is for the
format to say. -/
def ofDocument? (isNothing : Document → Bool) (d : Document) : Option Stopwords := do
  let (name, value) ← d.variant?
  if name == "none" && value.all isNothing then return none
  if name == "english" && value.all isNothing then return english
  if name == "custom" then return custom (← (← value).texts?)
  failure

/-- Stop words as a document. -/
def toDocument : Stopwords → Document
  | none => .text "none"
  | english => .text "english"
  | custom words => .record [("custom", Document.ofTexts words)]

end Stopwords

/-! ## Vectors -/

/-- A query vector before it is checked. -/
structure VectorSpec where
  field : String
  values : List Single
  dtype : DataType := .float32
  weight : Double := Embedding.defaultWeight
deriving DecidableEq

namespace VectorSpec

/-- The names of a vector's entries. -/
def names : List String := ["field", "values", "dtype", "weight"]

/-- The vector of a document. -/
def ofDocument? (d : Document) : Option VectorSpec := do
  let entries ← d.entries? names
  let field ← Document.required entries "field" Document.text?
  let values ← Document.required entries "values" (Document.list? Document.single?)
  let dtype ← Document.withDefault entries "dtype" .float32 Keyword.ofDocument?
  let weight ← Document.withDefault entries "weight" Embedding.defaultWeight Document.double?
  return { field, values, dtype, weight }

/-- A vector as a document. -/
def toDocument (v : VectorSpec) : Document :=
  .record [
    ("field", .text v.field),
    ("values", Document.ofList (fun x => Document.ofDouble x.convert) v.values),
    ("dtype", Keyword.toDocument v.dtype),
    ("weight", Document.ofDouble v.weight)
  ]

/-- The query vector of a specification. A weight of one is what a vector
has without being told. -/
def toEmbedding (v : VectorSpec) : Except Invalid Embedding := do
  let made ← Embedding.make v.values v.field
  let typed ← made.withType v.dtype
  if v.weight.eq Embedding.defaultWeight then return typed else typed.withWeight v.weight

end VectorSpec

end SearchQuery
