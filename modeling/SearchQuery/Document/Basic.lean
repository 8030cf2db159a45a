import SearchQuery.Binary.Format

/-!
# Documents

A document is what a text of a data format says: a value, a list of
documents, or a record of named ones. It is the meeting point of the two
formats that query files come in and of everything read from them.

Two leaves stand for texts that are in order but say nothing a document
can hold: a date, which no setting takes, and a number or string without a
value, which is refused wherever it is looked at. The entries of a record
keep their order, and a name may come twice: whether it may is the
reader's decision.
-/

namespace SearchQuery

/-- A value of a data format. -/
inductive Document where
  | null
  | bool (value : Bool)
  /-- An integer of a format whose integers are not negative unless signed. -/
  | natural (value : Nat)
  /-- An integer of either sign. -/
  | integer (value : Int)
  | float (value : Double)
  | text (value : String)
  | list (items : List Document)
  | record (entries : List (String × Document))
  | date
  /-- A leaf without a value. -/
  | unreadable
deriving Inhabited

namespace Document

mutual

/-- How deep lists and records are nested. -/
def depth : Document → Nat
  | list items => depthOfItems items + 1
  | record entries => depthOfEntries entries + 1
  | _ => 0

/-- The greatest depth among items. -/
def depthOfItems : List Document → Nat
  | [] => 0
  | item :: items => max item.depth (depthOfItems items)

/-- The greatest depth among entries. -/
def depthOfEntries : List (String × Document) → Nat
  | [] => 0
  | (_, value) :: entries => max value.depth (depthOfEntries entries)

end

mutual

/-- Every leaf has a value. -/
def isReadable : Document → Bool
  | list items => areItemsReadable items
  | record entries => areEntriesReadable entries
  | unreadable => false
  | _ => true

/-- Every leaf of the items has a value. -/
def areItemsReadable : List Document → Bool
  | [] => true
  | item :: items => item.isReadable && areItemsReadable items

/-- Every leaf of the entries has a value. -/
def areEntriesReadable : List (String × Document) → Bool
  | [] => true
  | (_, value) :: entries => value.isReadable && areEntriesReadable entries

end

/-! ## Writing values as documents -/

/-- A number as a document: one that is not finite has no written form. -/
def ofDouble (x : Double) : Document := if x.isFinite then float x else null

/-- A value that may be absent. -/
def ofOption {α : Type} (write : α → Document) : Option α → Document
  | some a => write a
  | none => null

/-- A list of values. -/
def ofList {α : Type} (write : α → Document) (values : List α) : Document :=
  list (values.map write)

/-- A list of texts. -/
def ofTexts (values : List String) : Document := ofList text values

end Document

end SearchQuery
