import SearchQuery.Decimal.Basic

/-!
# Tokens of JSON

A text is read character by character. Between tokens, white space is
passed over and punctuation stands for itself; a quote opens a string, and
anything else a word, which is a number or one of three names. Strings are
kept as their code units, since an escape may give half of a pair.
-/

namespace SearchQuery.Json

/-- A number as it is written. -/
inductive Numeral where
  /-- Digits alone. -/
  | whole (negative : Bool) (digits : Nat)
  /-- Digits with a fraction or an exponent. -/
  | decimal (value : Decimal)
deriving DecidableEq, Repr

/-- A token of a text. -/
inductive Token where
  | beginList
  | endList
  | beginRecord
  | endRecord
  | comma
  | colon
  | null
  | bool (value : Bool)
  | number (value : Numeral)
  /-- A string, as code points and halves of pairs. -/
  | text (units : List Nat)
deriving DecidableEq, Repr

/-! ## Words -/

/-- A number whose digits are read: the sign, the digits before the point
and the rest of the word. -/
def fraction? (cs : List Char) : Option (List Char × List Char) :=
  match cs with
  | '.' :: rest =>
    let digits := rest.takeWhile Char.isDigit
    if digits.isEmpty then none else some (digits, rest.dropWhile Char.isDigit)
  | cs => some ([], cs)

/-- The digits of an exponent as a number. -/
def exponentDigits? (negative : Bool) (cs : List Char) : Option Int :=
  if cs.isEmpty || !cs.all Char.isDigit then none
  else
    let n : Int := Nat.ofDigitChars 10 cs 0
    some (if negative then -n else n)

/-- The exponent that ends a number, if it has one. -/
def exponent? : List Char → Option (Option Int)
  | [] => some none
  | c :: cs =>
    if c == 'e' || c == 'E' then
      match cs with
      | '-' :: cs => (exponentDigits? true cs).map some
      | '+' :: cs => (exponentDigits? false cs).map some
      | cs => (exponentDigits? false cs).map some
    else none

/-- The number without its sign. No zero comes before other digits. -/
def unsigned? (negative : Bool) (cs : List Char) : Option Numeral := do
  let whole := cs.takeWhile Char.isDigit
  if whole.isEmpty || (whole.head? == some '0' && whole.length != 1) then none
  let rest := cs.dropWhile Char.isDigit
  let (fraction, rest) ← fraction? rest
  let exponent ← exponent? rest
  if fraction.isEmpty && exponent.isNone then
    return .whole negative (Nat.ofDigitChars 10 whole 0)
  return .decimal
    ⟨negative, Nat.ofDigitChars 10 (whole ++ fraction) 0, exponent.getD 0 - fraction.length⟩

/-- The number that a word is. -/
def numeral? : List Char → Option Numeral
  | '-' :: cs => unsigned? true cs
  | cs => unsigned? false cs

/-- The token that a word is. -/
def word? (cs : List Char) : Option Token :=
  if cs == ['n', 'u', 'l', 'l'] then some .null
  else if cs == ['t', 'r', 'u', 'e'] then some (.bool true)
  else if cs == ['f', 'a', 'l', 's', 'e'] then some (.bool false)
  else (numeral? cs).map .number

/-! ## Characters -/

/-- White space between tokens. -/
def isSpace (c : Char) : Bool := c == ' ' || c == '\t' || c == '\n' || c == '\r'

/-- The token that a character is by itself. -/
def punctuation? (c : Char) : Option Token :=
  match c with
  | '[' => some .beginList
  | ']' => some .endList
  | '{' => some .beginRecord
  | '}' => some .endRecord
  | ',' => some .comma
  | ':' => some .colon
  | _ => none

/-- The character of an escape of one letter. -/
def escaped? (c : Char) : Option Char :=
  match c with
  | '"' => some '"'
  | '\\' => some '\\'
  | '/' => some '/'
  | 'b' => some '\x08'
  | 'f' => some '\x0c'
  | 'n' => some '\n'
  | 'r' => some '\r'
  | 't' => some '\t'
  | _ => none

/-- The value of a hexadecimal digit. -/
def hexDigit? (c : Char) : Option Nat :=
  if '0' ≤ c && c ≤ '9' then some (c.toNat - '0'.toNat)
  else if 'a' ≤ c && c ≤ 'f' then some (c.toNat - 'a'.toNat + 10)
  else if 'A' ≤ c && c ≤ 'F' then some (c.toNat - 'A'.toNat + 10)
  else none

/-! ## Reading -/

/-- Where in a token the reader is. Words and strings are held last
character first. -/
inductive Place where
  | between
  | inWord (word : List Char)
  | inText (units : List Nat)
  | inEscape (units : List Nat)
  /-- After `\u`, with some digits still to come. -/
  | inCode (units : List Nat) (left code : Nat)

/-- The tokens read, the last one first, and where the reader is. -/
structure Reading where
  tokens : List Token
  place : Place

namespace Reading

/-- The reading of a character that begins a token. -/
def start (tokens : List Token) (c : Char) : Reading :=
  if isSpace c then ⟨tokens, .between⟩
  else if c == '"' then ⟨tokens, .inText []⟩
  else
    match punctuation? c with
    | some token => ⟨token :: tokens, .between⟩
    | none => ⟨tokens, .inWord [c]⟩

/-- A character ends the word before it. -/
def endsWord (c : Char) : Bool := isSpace c || c == '"' || (punctuation? c).isSome

/-- The reading of one more character. -/
def step (reading : Reading) (c : Char) : Option Reading :=
  match reading.place with
  | .between => some (start reading.tokens c)
  | .inWord word =>
    if endsWord c then do
      let token ← word? word.reverse
      return start (token :: reading.tokens) c
    else some ⟨reading.tokens, .inWord (c :: word)⟩
  | .inText units =>
    if c == '"' then some ⟨.text units.reverse :: reading.tokens, .between⟩
    else if c == '\\' then some ⟨reading.tokens, .inEscape units⟩
    else if c < ' ' then none
    else some ⟨reading.tokens, .inText (c.toNat :: units)⟩
  | .inEscape units =>
    if c == 'u' then some ⟨reading.tokens, .inCode units 4 0⟩
    else (escaped? c).map fun c => ⟨reading.tokens, .inText (c.toNat :: units)⟩
  | .inCode units left code => do
    let digit ← hexDigit? c
    let code := 16 * code + digit
    if left ≤ 1 then return ⟨reading.tokens, .inText (code :: units)⟩
    return ⟨reading.tokens, .inCode units (left - 1) code⟩

/-- The tokens of a text that has ended. -/
def finish (reading : Reading) : Option (List Token) :=
  match reading.place with
  | .between => some reading.tokens.reverse
  | .inWord word => do
    let token ← word? word.reverse
    return (token :: reading.tokens).reverse
  | _ => none

end Reading

/-- The tokens of a text. -/
def tokens? (cs : List Char) : Option (List Token) := do
  (← cs.foldlM Reading.step ⟨[], .between⟩).finish

end SearchQuery.Json
