import SearchQuery.Decimal.Shortest
import SearchQuery.Document.Basic

/-!
# Writing TOML

A record is written as tables: the values of a table under its header,
then the tables inside it, each after an empty line. A header is left out
where a table has tables only. A list of several items has one on each
line. A string is written in the plainest quotes that can hold it.
-/

namespace SearchQuery.Toml

/-! ## Strings -/

/-- A control character other than the tab and the line feed. -/
def isControl (c : Char) : Bool := (c < ' ' && c != '\t' && c != '\n') || c == '\x7f'

/-- The longest run of a character, and the run that a text begins with. -/
def runs (quote : Char) : List Char → Nat × Nat
  | [] => (0, 0)
  | c :: cs =>
    let (longest, first) := runs quote cs
    if c == quote then (max longest (first + 1), first + 1) else (longest, 0)

/-- The longest run of a character in a text. -/
def longestRun (quote : Char) (cs : List Char) : Nat := (runs quote cs).1

/-- A character between quotes that allow escapes. -/
def escapeChar (c : Char) : List Char :=
  match c with
  | '"' => ['\\', '"']
  | '\\' => ['\\', '\\']
  | '\x08' => ['\\', 'b']
  | '\t' => ['\\', 't']
  | '\n' => ['\\', 'n']
  | '\x0c' => ['\\', 'f']
  | '\r' => ['\\', 'r']
  | c =>
    if isControl c then
      let digits := (Nat.toDigits 16 c.toNat).map Char.toUpper
      '\\' :: 'u' :: List.replicate (4 - digits.length) '0' ++ digits
    else [c]

/-- The characters between long quotes that allow escapes. A line break
stands for itself, and so does a quote unless two before it do: three would
end the string. -/
def escapeLong (quotesBefore : Nat) : List Char → List Char
  | [] => []
  | '\n' :: cs => '\n' :: escapeLong 0 cs
  | '"' :: cs =>
    if quotesBefore < 2 then '"' :: escapeLong (quotesBefore + 1) cs
    else escapeChar '"' ++ escapeLong 0 cs
  | c :: cs => escapeChar c ++ escapeLong 0 cs

/-- A string between quotes that allow escapes. -/
def quoteBasic (cs : List Char) : String :=
  "\"" ++ String.ofList (cs.flatMap escapeChar) ++ "\""

/-- What comes after long quotes: a line break, if the string has one. -/
def opening (cs : List Char) : String := if cs.contains '\n' then "\n" else ""

/-- A string between long quotes that allow escapes. -/
def quoteLongBasic (cs : List Char) : String :=
  "\"\"\"" ++ opening cs ++ String.ofList (escapeLong 0 cs) ++ "\"\"\""

/-- A string between quotes inside which nothing is escaped. -/
def quoteLiteral (cs : List Char) : String := "'" ++ String.ofList cs ++ "'"

/-- A string between long quotes inside which nothing is escaped. -/
def quoteLongLiteral (cs : List Char) : String :=
  "'''" ++ opening cs ++ String.ofList cs ++ "'''"

/-- A string in the plainest quotes that can hold it: escapes of other
characters than the tab are the last resort. -/
def writeText (s : String) : String :=
  let cs := s.toList
  let breaks := cs.contains '\n'
  let controls := cs.any isControl
  let backslashes := cs.contains '\\'
  let double := longestRun '"' cs
  let single := longestRun '\'' cs
  if !controls && !backslashes && double == 0 && !breaks then quoteBasic cs
  else if !controls && single == 0 && !breaks then quoteLiteral cs
  else if !controls && !backslashes && double < 3 then quoteLongBasic cs
  else if !controls && single < 3 then quoteLongLiteral cs
  else if breaks then quoteLongBasic cs
  else quoteBasic cs

/-! ## Values -/

/-- A number, which has a point even where nothing stands behind it. -/
def writeFloat (x : Double) : String :=
  if x.isNaN then (if x.negative then "-nan" else "nan")
  else if x.isInfinite then x.display
  else if x.display.contains '.' then x.display
  else x.display ++ ".0"

mutual

/-- A value on the right of a key. -/
def writeValue : Document → String
  | .bool true => "true"
  | .bool false => "false"
  | .natural n => toString n
  | .integer n => toString n
  | .float x => writeFloat x
  | .text s => writeText s
  | .list items =>
    match writeValues items with
    | [] => "[]"
    | [item] => "[" ++ item ++ "]"
    | items => "[" ++ String.join (items.map fun item => "\n    " ++ item ++ ",") ++ "\n]"
  | _ => "\x7b\x7d"

/-- Each value of a list. -/
def writeValues : List Document → List String
  | [] => []
  | item :: items => writeValue item :: writeValues items

end

/-! ## Tables -/

/-- A document that is written as a table of its own. -/
def isTable : Document → Bool
  | .record _ => true
  | _ => false

/-- The header of a table at a path. -/
def header (path : List String) : String :=
  if path.isEmpty then "" else "[" ++ ".".intercalate path ++ "]\n"

/-- The lines of the values among entries. -/
def valueLines (entries : List (String × Document)) : String :=
  String.join <| (entries.filter (!isTable ·.2)).map fun entry =>
    entry.1 ++ " = " ++ writeValue entry.2 ++ "\n"

mutual

/-- The tables of a document at a path, each with its values. -/
def tables (path : List String) : Document → List String
  | .record entries =>
    let inner := tablesOf path entries
    if entries.all (isTable ·.2) && !entries.isEmpty then inner
    else (header path ++ valueLines entries) :: inner
  | _ => []

/-- The tables among entries, in order. -/
def tablesOf (path : List String) : List (String × Document) → List String
  | [] => []
  | (name, value) :: entries => tables (path ++ [name]) value ++ tablesOf path entries

end

/-- A record as a text. -/
def write (d : Document) : String := "\n".intercalate (tables [] d)

end SearchQuery.Toml
