import SearchQuery.Decimal.Shortest
import SearchQuery.Document.Basic

/-!
# Writing JSON

A document is written on one line, or spread over lines with two spaces a
level. Strings escape what they must and nothing else. A number has the
shortest digits that read back, a tie going to the even digit; its point
is written out up to sixteen digits before it and four zeros behind it,
and beyond that an exponent is.
-/

namespace SearchQuery.Json

/-! ## Leaves -/

/-- A code point in four hexadecimal digits. -/
def hex4 (n : Nat) : List Char := Decimal.padded 4 (Nat.toDigits 16 n)

/-- A character as it stands in a string. -/
def writeChar (c : Char) : List Char :=
  match c with
  | '"' => ['\\', '"']
  | '\\' => ['\\', '\\']
  | '\x08' => ['\\', 'b']
  | '\x0c' => ['\\', 'f']
  | '\n' => ['\\', 'n']
  | '\r' => ['\\', 'r']
  | '\t' => ['\\', 't']
  | c => if c < ' ' then '\\' :: 'u' :: hex4 c.toNat else [c]

/-- A string with its quotes. -/
def writeText (s : String) : String :=
  String.ofList ('"' :: s.toList.flatMap writeChar ++ ['"'])

/-- An exponent with its sign, which is written in either case. -/
def writeExponent (exponent : Int) : List Char :=
  (if exponent < 0 then '-' else '+') :: Nat.toDigits 10 exponent.natAbs

/-- The digits of a number with an exponent: a point after the first, if
more follow. -/
def scientific (digits : List Char) (exponent : Int) : List Char :=
  let mantissa :=
    match digits with
    | first :: second :: rest => first :: '.' :: second :: rest
    | digits => digits
  mantissa ++ 'e' :: writeExponent exponent

/-- The digits of a shortest decimal, with its point or its exponent. -/
def writeDecimal (d : Decimal) : List Char :=
  let digits := Nat.toDigits 10 d.digits
  let point : Int := digits.length + d.exponent
  if 0 ≤ d.exponent && point ≤ 16 then d.positional ++ ['.', '0']
  else if -5 < point && point ≤ 16 then d.positional
  else scientific digits (point - 1)

/-- A number; one that is not finite is null. -/
def writeFloat (x : Double) : String :=
  if x.isFinite then
    let digits := writeDecimal (x.shortest .even)
    String.ofList (if x.negative then '-' :: digits else digits)
  else "null"

/-! ## Documents -/

/-- A document without parts. -/
def writeLeaf : Document → String
  | .bool true => "true"
  | .bool false => "false"
  | .natural n => toString n
  | .integer n => toString n
  | .float x => writeFloat x
  | .text s => writeText s
  | _ => "null"

mutual

/-- A document on one line. -/
def compact : Document → String
  | .list items => "[" ++ ",".intercalate (compactItems items) ++ "]"
  | .record entries => "\x7b" ++ ",".intercalate (compactEntries entries) ++ "\x7d"
  | d => writeLeaf d

/-- Each item on one line. -/
def compactItems : List Document → List String
  | [] => []
  | item :: items => compact item :: compactItems items

/-- Each entry on one line. -/
def compactEntries : List (String × Document) → List String
  | [] => []
  | (name, value) :: entries => (writeText name ++ ":" ++ compact value) :: compactEntries entries

end

/-- The beginning of a line at a level of nesting. -/
def newLine (level : Nat) : String := String.ofList ('\n' :: List.replicate (2 * level) ' ')

/-- Parts between their delimiters, each on a line of its own. -/
def spread (opening closing : String) (level : Nat) (parts : List String) : String :=
  if parts.isEmpty then opening ++ closing
  else
    opening ++ newLine (level + 1) ++ ("," ++ newLine (level + 1)).intercalate parts
      ++ newLine level ++ closing

mutual

/-- A document over several lines, at a level of nesting. -/
def pretty (level : Nat) : Document → String
  | .list items => spread "[" "]" level (prettyItems (level + 1) items)
  | .record entries => spread "\x7b" "\x7d" level (prettyEntries (level + 1) entries)
  | d => writeLeaf d

/-- Each item over several lines. -/
def prettyItems (level : Nat) : List Document → List String
  | [] => []
  | item :: items => pretty level item :: prettyItems level items

/-- Each entry over several lines. -/
def prettyEntries (level : Nat) : List (String × Document) → List String
  | [] => []
  | (name, value) :: entries =>
    (writeText name ++ ": " ++ pretty level value) :: prettyEntries level entries

end

end SearchQuery.Json
