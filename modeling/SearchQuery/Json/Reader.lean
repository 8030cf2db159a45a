import SearchQuery.Document.Basic
import SearchQuery.Json.Token

/-!
# Reading JSON

The tokens of a text are taken one by one, with the lists and records that
are still open on a stack. A text is one value: nothing may follow it.

A number that no double reaches, and a string with half of a surrogate
pair, are read as leaves without a value. `Json.readSound?` refuses these
and nesting deeper than `Json.maxDepth`.
-/

namespace SearchQuery.Json

/-! ## Leaves -/

/-- The number nearest to a decimal, if one is finite. -/
def ofDecimal (d : Decimal) : Document :=
  let x : Double := d.toBinary
  if x.isFinite then .float x else .unreadable

/-- A number as a document. Digits alone are an integer if 64 bits hold
it; a negative zero is not one. -/
def Numeral.toDocument : Numeral → Document
  | whole false n => if n < UInt64.size then .natural n else ofDecimal ⟨false, n, 0⟩
  | whole true n =>
    if 0 < n && 2 * n ≤ UInt64.size then .integer (-(n : Int)) else ofDecimal ⟨true, n, 0⟩
  | decimal d => ofDecimal d

/-- The first half of a surrogate pair. -/
def isHighHalf (unit : Nat) : Bool := 0xD800 ≤ unit && unit < 0xDC00

/-- The second half of a surrogate pair. -/
def isLowHalf (unit : Nat) : Bool := 0xDC00 ≤ unit && unit < 0xE000

/-- The characters of code units, pairs put together. -/
def characters? : List Nat → Option (List Char)
  | [] => some []
  | high :: low :: units =>
    if isHighHalf high then
      if isLowHalf low then
        (characters? units).map
          (Char.ofNat (0x10000 + (high - 0xD800) * 0x400 + (low - 0xDC00)) :: ·)
      else none
    else if isLowHalf high then none
    else (characters? (low :: units)).map (Char.ofNat high :: ·)
  | [unit] => if isHighHalf unit || isLowHalf unit then none else some [Char.ofNat unit]

/-- The string of code units. -/
def string? (units : List Nat) : Option String := (characters? units).map String.ofList

/-- A string as a document. -/
def ofUnits (units : List Nat) : Document :=
  match string? units with
  | some s => .text s
  | none => .unreadable

/-- A record, unless one of its names is no string. -/
def ofEntries (entries : List (List Nat × Document)) : Document :=
  match entries.mapM fun entry => (string? entry.1).map (·, entry.2) with
  | some entries => .record entries
  | none => .unreadable

/-! ## Nesting -/

/-- A list or record that is still open, its parts last first. -/
inductive Frame where
  | list (items : List Document)
  | record (entries : List (List Nat × Document)) (name : List Nat)

/-- What may come next. -/
inductive State where
  /-- A value; in a list just opened, its end as well. -/
  | value (stack : List Frame) (fresh : Bool)
  /-- A name; in a record just opened, its end as well. -/
  | name (entries : List (List Nat × Document)) (stack : List Frame) (fresh : Bool)
  | colon (entries : List (List Nat × Document)) (name : List Nat) (stack : List Frame)
  | afterItem (items : List Document) (stack : List Frame)
  | afterEntry (entries : List (List Nat × Document)) (stack : List Frame)
  | complete (document : Document)

namespace State

/-- The state once a value is complete. -/
def fill (d : Document) : List Frame → State
  | [] => complete d
  | .list items :: stack => afterItem (d :: items) stack
  | .record entries key :: stack => afterEntry ((key, d) :: entries) stack

/-- The state after a token that begins a value. -/
def begin (stack : List Frame) : Token → Option State
  | .null => some (fill .null stack)
  | .bool b => some (fill (.bool b) stack)
  | .number n => some (fill n.toDocument stack)
  | .text units => some (fill (ofUnits units) stack)
  | .beginList => some (value (.list [] :: stack) true)
  | .beginRecord => some (name [] stack true)
  | _ => none

/-- The state after one more token. -/
def step : State → Token → Option State
  | value (.list [] :: stack) true, .endList => some (fill (.list []) stack)
  | value stack _, token => begin stack token
  | name [] stack true, .endRecord => some (fill (.record []) stack)
  | name entries stack _, .text units => some (colon entries units stack)
  | colon entries key stack, .colon => some (value (.record entries key :: stack) false)
  | afterItem items stack, .comma => some (value (.list items :: stack) false)
  | afterItem items stack, .endList => some (fill (.list items.reverse) stack)
  | afterEntry entries stack, .comma => some (name entries stack false)
  | afterEntry entries stack, .endRecord => some (fill (ofEntries entries.reverse) stack)
  | _, _ => none

end State

/-- The document of a text. -/
def read? (s : String) : Option Document := do
  let tokens ← tokens? s.toList
  match ← tokens.foldlM State.step (.value [] false) with
  | .complete d => some d
  | _ => none

/-- How deep lists and records may be nested. -/
def maxDepth : Nat := 127

/-- The document of a text, each of whose leaves has a value. -/
def readSound? (s : String) : Option Document := do
  let d ← read? s
  if d.isReadable && d.depth ≤ maxDepth then some d else none

end SearchQuery.Json
