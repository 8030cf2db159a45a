import SearchQuery.Document.Basic

/-!
# Tables of TOML

The headers and keys of a text name tables by paths. A table that a path
only passes through is implied, and a header may still define it once; a
table that a dotted key makes belongs to the place where it was made, and
only dotted keys of that place add to it. Nothing is defined twice.
-/

namespace SearchQuery.Toml

/-- What a key stands for while a text is read. -/
inductive Node where
  /-- A value, to which nothing is added. -/
  | value (document : Document)
  /-- A table: whether it is only implied, whether a dotted key made it, and
  its entries. -/
  | table (implied dotted : Bool) (entries : List (String × Node))
  /-- Tables under one name, the last of which is open. -/
  | tables (elements : List Node)
deriving Inhabited

namespace Node

/-- The table of a text of nothing. -/
def root : Node := table false false []

/-- Entries with the value of a key changed. -/
def replace (key : String) (node : Node) (entries : List (String × Node)) :
    List (String × Node) :=
  entries.map fun entry => if entry.1 == key then (key, node) else entry

/-- A table with what is at a path changed. Tables missing on the way are
implied; a dotted path does not enter a table that a header defined. -/
def changeAt (dotted : Bool) (change : Node → Option Node) : List String → Node → Option Node
  | [], node => change node
  | key :: path, table implied byKey entries =>
    match entries.lookup key with
    | none => do
      let child ← changeAt dotted change path (table true dotted [])
      return table implied byKey (entries ++ [(key, child)])
    | some (value _) => none
    | some (table childImplied childByKey childEntries) =>
      if dotted && !childImplied then none
      else do
        let child ← changeAt dotted change path (table childImplied childByKey childEntries)
        return table implied byKey (replace key child entries)
    | some (tables elements) => do
      let last ← elements.getLast?
      let last ← changeAt dotted change path last
      return table implied byKey (replace key (tables (elements.dropLast ++ [last])) entries)
  | _ :: _, _ => none

/-- A table with one more key. A key without a path belongs to a table that
no dotted key made, and one with a path to a table that one did. -/
def addKey (direct : Bool) (key : String) (document : Document) : Node → Option Node
  | table implied byKey entries =>
    if byKey == direct || (entries.lookup key).isSome then none
    else some (table implied byKey (entries ++ [(key, value document)]))
  | _ => none

/-- A table with one more key, reached by a dotted path. -/
def define (path : List String) (key : String) (document : Document) : Node → Option Node :=
  changeAt true (addKey path.isEmpty key document) path

/-- A table with the table of a header in it. -/
def addTable (key : String) : Node → Option Node
  | table implied byKey entries =>
    match entries.lookup key with
    | none => some (table implied byKey (entries ++ [(key, table false false [])]))
    | some (table true false children) =>
      some (table implied byKey (replace key (table false false children) entries))
    | some _ => none
  | _ => none

/-- A table with one more table of a header's list in it. -/
def addElement (key : String) : Node → Option Node
  | table implied byKey entries =>
    match entries.lookup key with
    | none => some (table implied byKey (entries ++ [(key, tables [table false false []])]))
    | some (tables elements) =>
      some (table implied byKey (replace key (tables (elements ++ [table false false []])) entries))
    | some _ => none
  | _ => none

mutual

/-- What was read, as a document. -/
def toDocument : Node → Document
  | value document => document
  | table _ _ entries => .record (entryDocuments entries)
  | tables elements => .list (elementDocuments elements)

/-- The entries of a table as documents. -/
def entryDocuments : List (String × Node) → List (String × Document)
  | [] => []
  | (key, node) :: entries => (key, node.toDocument) :: entryDocuments entries

/-- The tables of a list as documents. -/
def elementDocuments : List Node → List Document
  | [] => []
  | node :: nodes => node.toDocument :: elementDocuments nodes

end

end Node

end SearchQuery.Toml
