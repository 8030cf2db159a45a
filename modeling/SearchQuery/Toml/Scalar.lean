import SearchQuery.Decimal.Basic
import SearchQuery.Document.Basic

/-!
# Scalars of TOML

A scalar that is not a string is a word: the characters up to the next
delimiter. A word is a truth value, a number or a date, and nothing of it
is left over. Underscores may stand between the digits of a number; no
zero comes before other digits of a decimal one. A whole number has 64
bits and a sign. A date is checked against the calendar.
-/

namespace SearchQuery.Toml

/-! ## Digits -/

/-- The digits of a run in which single underscores may separate them. -/
def digitRun? (isDigit : Char → Bool) : List Char → Option (List Char)
  | [] => none
  | [c] => if isDigit c then some [c] else none
  | c :: '_' :: rest => if isDigit c then (digitRun? isDigit rest).map (c :: ·) else none
  | c :: rest => if isDigit c then (digitRun? isDigit rest).map (c :: ·) else none

/-- A binary digit. -/
def isBinary (c : Char) : Bool := c == '0' || c == '1'

/-- An octal digit. -/
def isOctal (c : Char) : Bool := '0' ≤ c && c ≤ '7'

/-- A hexadecimal digit. -/
def isHex (c : Char) : Bool :=
  c.isDigit || ('a' ≤ c && c ≤ 'f') || ('A' ≤ c && c ≤ 'F')

/-- The value of a hexadecimal digit. -/
def digitValue (c : Char) : Nat :=
  if c.isDigit then c.toNat - '0'.toNat
  else if 'a' ≤ c then c.toNat - 'a'.toNat + 10
  else c.toNat - 'A'.toNat + 10

/-- The number of digits in a base. -/
def numberOf (base : Nat) (digits : List Char) : Nat :=
  digits.foldl (fun n c => base * n + digitValue c) 0

/-- The digits of a decimal number, none of which is a zero before others. -/
def wholeDigits? (cs : List Char) : Option (List Char) := do
  let digits ← digitRun? Char.isDigit cs
  if digits.head? == some '0' && digits.length != 1 then none else some digits

/-! ## Numbers -/

/-- A sign, and what comes after it. -/
def signed (cs : List Char) : Bool × List Char :=
  match cs with
  | '-' :: rest => (true, rest)
  | '+' :: rest => (false, rest)
  | cs => (false, cs)

/-- A whole number that 64 bits hold. -/
def integerIn64? (n : Int) : Option Document :=
  if -(9223372036854775808 : Int) ≤ n && n ≤ 9223372036854775807 then some (.integer n) else none

/-- A whole number in a base. -/
def basedInteger? (base : Nat) (isDigit : Char → Bool) (cs : List Char) : Option Document := do
  integerIn64? (numberOf base (← digitRun? isDigit cs))

/-- A whole number: decimal with a sign, or in another base without one. -/
def integer? (word : List Char) : Option Document :=
  match word with
  | '0' :: 'x' :: cs => basedInteger? 16 isHex cs
  | '0' :: 'o' :: cs => basedInteger? 8 isOctal cs
  | '0' :: 'b' :: cs => basedInteger? 2 isBinary cs
  | _ => do
    let (negative, cs) := signed word
    let n : Int := numberOf 10 (← wholeDigits? cs)
    integerIn64? (if negative then -n else n)

/-- The digits of an exponent as a number. -/
def exponent? (cs : List Char) : Option Int := do
  let (negative, cs) := signed cs
  let n : Int := numberOf 10 (← digitRun? Char.isDigit cs)
  return if negative then -n else n

/-- A character that begins an exponent. -/
def isExponentMark (c : Char) : Bool := c == 'e' || c == 'E'

/-- A decimal number with a fraction, an exponent or both. One above the
range of a double is refused. -/
def decimal? (word : List Char) : Option Document := do
  let (negative, cs) := signed word
  let mantissa := cs.takeWhile (!isExponentMark ·)
  let exponent ←
    match cs.dropWhile (!isExponentMark ·) with
    | [] => some 0
    | _ :: digits => exponent? digits
  let whole ← wholeDigits? (mantissa.takeWhile (· != '.'))
  let fraction ←
    match mantissa.dropWhile (· != '.') with
    | [] => if mantissa.length == cs.length then none else some []
    | _ :: digits => digitRun? Char.isDigit digits
  let x : Double :=
    Decimal.toBinary ⟨negative, numberOf 10 (whole ++ fraction), exponent - fraction.length⟩
  if x.isInfinite && !negative then none else some (.float x)

/-- A number that is not finite. -/
def special? (word : List Char) : Option Document :=
  let (negative, cs) := signed word
  if cs == ['i', 'n', 'f'] then some (.float (Binary.infinity negative))
  else if cs == ['n', 'a', 'n'] then
    some (.float { (Binary.nan : Double) with negative })
  else none

/-! ## Dates -/

/-- The number of a field of just so many digits, within bounds. -/
def dateField? (width low high : Nat) (cs : List Char) : Option (Nat × List Char) :=
  let digits := cs.take width
  let n := numberOf 10 digits
  if digits.length == width && digits.all Char.isDigit && low ≤ n && n ≤ high then
    some (n, cs.drop width)
  else none

/-- What comes after a character. -/
def after? (c : Char) : List Char → Option (List Char)
  | [] => none
  | d :: rest => if c == d then some rest else none

/-- The last day of a month. -/
def lastDay (year month : Nat) : Nat :=
  if month == 2 then
    if year % 4 == 0 && (year % 100 != 0 || year % 400 == 0) then 29 else 28
  else if month == 4 || month == 6 || month == 9 || month == 11 then 30
  else 31

/-- What comes after a day of the calendar. -/
def afterDay? (cs : List Char) : Option (List Char) := do
  let (year, cs) ← dateField? 4 0 9999 cs
  let cs ← after? '-' cs
  let (month, cs) ← dateField? 2 1 12 cs
  let cs ← after? '-' cs
  let (_, cs) ← dateField? 2 1 (lastDay year month) cs
  return cs

/-- What comes after the fraction of a second. -/
def afterFraction? (cs : List Char) : Option (List Char) :=
  match cs with
  | '.' :: rest =>
    if (rest.takeWhile Char.isDigit).isEmpty then none else some (rest.dropWhile Char.isDigit)
  | cs => some cs

/-- What comes after a time of day. -/
def afterTime? (cs : List Char) : Option (List Char) := do
  let (_, cs) ← dateField? 2 0 23 cs
  let cs ← after? ':' cs
  let (_, cs) ← dateField? 2 0 59 cs
  let cs ← after? ':' cs
  let (_, cs) ← dateField? 2 0 60 cs
  afterFraction? cs

/-- What comes after the offset of a time. -/
def afterOffset? (cs : List Char) : Option (List Char) :=
  match cs with
  | [] => some []
  | c :: rest =>
    if c == 'Z' || c == 'z' then some rest
    else if c == '+' || c == '-' then do
      let (_, rest) ← dateField? 2 0 23 rest
      let rest ← after? ':' rest
      let (_, rest) ← dateField? 2 0 59 rest
      return rest
    else none

/-- A time of day with an offset, and nothing else. -/
def isOffsetTime (cs : List Char) : Bool :=
  match afterTime? cs with
  | some rest => afterOffset? rest == some []
  | none => false

/-- A day, and nothing else. -/
def isDay (cs : List Char) : Bool := afterDay? cs == some []

/-- A day, a day with a time, or a time. -/
def isDate (word : List Char) : Bool :=
  afterTime? word == some [] ||
    match afterDay? word with
    | some [] => true
    | some (c :: rest) => (c == 'T' || c == 't') && isOffsetTime rest
    | none => false

/-! ## Words -/

/-- A character that may stand in a word. -/
def isWordChar (c : Char) : Bool :=
  c.isAlphanum || c == '_' || c == '-' || c == '+' || c == '.' || c == ':'

/-- The scalar that a word is. -/
def scalar? (word : List Char) : Option Document :=
  if word == ['t', 'r', 'u', 'e'] then some (.bool true)
  else if word == ['f', 'a', 'l', 's', 'e'] then some (.bool false)
  else if isDate word then some .date
  else integer? word <|> decimal? word <|> special? word

/-- The scalar at the beginning of a text. A day may be followed, after a
space, by a time. -/
def readScalar? (cs : List Char) : Option (Document × List Char) :=
  let word := cs.takeWhile isWordChar
  let rest := cs.dropWhile isWordChar
  match rest with
  | ' ' :: next =>
    if isDay word && (next.head?.any Char.isDigit) then
      if isOffsetTime (next.takeWhile isWordChar) then
        some (.date, next.dropWhile isWordChar)
      else none
    else (scalar? word).map (·, rest)
  | _ => (scalar? word).map (·, rest)

end SearchQuery.Toml
