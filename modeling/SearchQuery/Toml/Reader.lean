import SearchQuery.Toml.Table
import SearchQuery.Toml.Text

/-!
# Reading TOML

A text is a sequence of headers and of keys with values, each on a line
of its own. A header names the table that the keys after it belong to.
Values may run over several lines inside lists and long strings.

Lists and inline tables are nested, and paths are long, less than
`Toml.maxDepth`. Each step of the readers below takes a character or goes
down to a part of what is at hand, so twice the length of the text bounds
their number.
-/

namespace SearchQuery.Toml

/-- The bound on nesting and on the length of a path. -/
def maxDepth : Nat := 80

/-! ## Space between parts -/

/-- What comes after a comment, which ends with its line. -/
def afterComment (cs : List Char) : List Char := cs.dropWhile isPlain

/-- What comes after the white space, line breaks and comments between the
items of a list. -/
def dropFiller : Nat → List Char → List Char
  | 0, cs => cs
  | steps + 1, cs =>
    match dropBlank cs with
    | '#' :: rest => dropFiller steps (afterComment rest)
    | rest => rest

/-- What comes after the end of a line, before which a comment may stand. -/
def afterLine? (cs : List Char) : Option (List Char) :=
  let cs :=
    match dropSpaces cs with
    | '#' :: rest => afterComment rest
    | rest => rest
  match cs with
  | [] => some []
  | '\n' :: rest => some rest
  | '\r' :: '\n' :: rest => some rest
  | _ => none

/-! ## Keys -/

/-- A character of a key without quotes. -/
def isKeyChar (c : Char) : Bool := c.isAlphanum || c == '_' || c == '-'

/-- The key at the beginning of a text. -/
def simpleKey? (cs : List Char) : Option (String × List Char) :=
  match cs with
  | [] => none
  | c :: _ =>
    if c == '"' || c == '\'' then shortText? cs
    else
      let key := cs.takeWhile isKeyChar
      if key.isEmpty then none else some (String.ofList key, cs.dropWhile isKeyChar)

/-- The keys of a path, with spaces around the dots between them. -/
def path? : Nat → List Char → Option (List String × List Char)
  | 0, _ => none
  | steps + 1, cs => do
    let (key, rest) ← simpleKey? (dropSpaces cs)
    match dropSpaces rest with
    | '.' :: rest => do
      let (keys, rest) ← path? steps rest
      return (key :: keys, rest)
    | rest => return ([key], rest)

/-- The path before a last key, and that key. -/
def splitPath? (cs : List Char) : Option (List String × String × List Char) := do
  let (keys, rest) ← path? (maxDepth - 1) cs
  return (keys.dropLast, ← keys.getLast?, rest)

/-! ## Values -/

mutual

/-- The value at the beginning of a text. -/
def value? : Nat → Nat → List Char → Option (Document × List Char)
  | 0, _, _ => none
  | steps + 1, depth, cs =>
    match cs with
    | '[' :: rest =>
      if maxDepth ≤ depth + 1 then none
      else (items? steps (depth + 1) (dropFiller steps rest)).map fun (items, rest) =>
        (.list items, rest)
    | '{' :: rest =>
      if maxDepth ≤ depth + 1 then none
      else
        match dropSpaces rest with
        | '}' :: rest => some (.record [], rest)
        | rest => (inline? steps (depth + 1) Node.root rest).map fun (node, rest) =>
          (node.toDocument, rest)
    | '"' :: _ | '\'' :: _ => (text? cs).map fun (text, rest) => (.text text, rest)
    | _ => readScalar? cs

/-- The items of a list, after its bracket or a comma. -/
def items? : Nat → Nat → List Char → Option (List Document × List Char)
  | 0, _, _ => none
  | _ + 1, _, ']' :: rest => some ([], rest)
  | steps + 1, depth, cs => do
    let (item, rest) ← value? steps depth cs
    match dropFiller steps rest with
    | ']' :: rest => return ([item], rest)
    | ',' :: rest => do
      let (items, rest) ← items? steps depth (dropFiller steps rest)
      return (item :: items, rest)
    | _ => none

/-- The keys of an inline table, after its brace or a comma. -/
def inline? : Nat → Nat → Node → List Char → Option (Node × List Char)
  | 0, _, _, _ => none
  | steps + 1, depth, node, cs => do
    let (path, key, rest) ← splitPath? cs
    match rest with
    | '=' :: rest => do
      let (document, rest) ← value? steps depth (dropSpaces rest)
      let node ← node.define path key document
      match dropSpaces rest with
      | '}' :: rest => return (node, rest)
      | ',' :: rest => inline? steps depth node rest
      | _ => none
    | _ => none

end

/-! ## Texts -/

/-- What was read of a text: the root, and the path of the open table. -/
structure Progress where
  root : Node
  header : List String

namespace Progress

/-- The progress after a key with its value. -/
def define (p : Progress) (path : List String) (key : String) (document : Document) :
    Option Progress := do
  return { p with root := ← p.root.changeAt false (Node.define path key document) p.header }

/-- The progress after a header. -/
def openTable (p : Progress) (path : List String) (key : String) : Option Progress := do
  return ⟨← p.root.changeAt false (Node.addTable key) path, path ++ [key]⟩

/-- The progress after a header of one more table of a list. -/
def openElement (p : Progress) (path : List String) (key : String) : Option Progress := do
  return ⟨← p.root.changeAt false (Node.addElement key) path, path ++ [key]⟩

end Progress

/-- The progress after a line that is not empty, and what comes after it. -/
def line? (steps : Nat) (p : Progress) (cs : List Char) : Option (Progress × List Char) :=
  match cs with
  | '[' :: '[' :: rest => do
    let (path, key, rest) ← splitPath? rest
    match rest with
    | ']' :: ']' :: rest => return (← p.openElement path key, ← afterLine? rest)
    | _ => none
  | '[' :: rest => do
    let (path, key, rest) ← splitPath? rest
    match rest with
    | ']' :: rest => return (← p.openTable path key, ← afterLine? rest)
    | _ => none
  | cs => do
    let (path, key, rest) ← splitPath? cs
    match rest with
    | '=' :: rest => do
      let (document, rest) ← value? steps 0 (dropSpaces rest)
      return (← p.define path key document, ← afterLine? rest)
    | _ => none

/-- The root of a text, line by line. -/
def lines? : Nat → Progress → List Char → Option Node
  | 0, _, _ => none
  | steps + 1, p, cs =>
    match dropSpaces cs with
    | [] => some p.root
    | '#' :: rest => do lines? steps p (← afterLine? ('#' :: rest))
    | '\n' :: rest => lines? steps p rest
    | '\r' :: '\n' :: rest => lines? steps p rest
    | cs => do
      let (p, rest) ← line? steps p cs
      lines? steps p rest

/-- The document of a text, which may begin with a byte order mark. -/
def read? (s : String) : Option Document :=
  let cs :=
    match s.toList with
    | '\uFEFF' :: rest => rest
    | cs => cs
  (lines? (2 * cs.length + 2) ⟨Node.root, []⟩ cs).map Node.toDocument

end SearchQuery.Toml
