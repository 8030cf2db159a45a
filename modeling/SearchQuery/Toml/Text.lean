import SearchQuery.Toml.Scalar

/-!
# Strings of TOML

There are four kinds of strings: with escapes or without, on one line or
over several. Over several lines, a line break right after the opening
quotes is dropped, every line break is read as one line feed, and one or
two quotes are text while three end the string. Where there are escapes, a
backslash at the end of a line takes the break and the white space after
it away.
-/

namespace SearchQuery.Toml

/-- A character that may stand in a string or comment as it is, apart from
the delimiters. -/
def isPlain (c : Char) : Bool := c == '\t' || (' ' ≤ c && c != '\x7f')

/-! ## Escapes -/

/-- The character of an escape of one letter. -/
def escaped? (c : Char) : Option Char :=
  match c with
  | 'b' => some '\x08'
  | 't' => some '\t'
  | 'n' => some '\n'
  | 'f' => some '\x0c'
  | 'r' => some '\r'
  | '"' => some '"'
  | '\\' => some '\\'
  | _ => none

/-- The character of a code point in hexadecimal digits. -/
def codePoint? (digits : List Char) : Option Char :=
  let n := numberOf 16 digits
  if digits.all isHex && n.isValidChar then some (Char.ofNat n) else none

/-- The character that an escape stands for, after its backslash, and what
comes after it. -/
def escape? : List Char → Option (Char × List Char)
  | 'u' :: cs =>
    if cs.length < 4 then none else (codePoint? (cs.take 4)).map (·, cs.drop 4)
  | 'U' :: cs =>
    if cs.length < 8 then none else (codePoint? (cs.take 8)).map (·, cs.drop 8)
  | c :: cs => (escaped? c).map (·, cs)
  | [] => none

theorem escape?_length {cs rest : List Char} {c : Char} (h : escape? cs = some (c, rest)) :
    rest.length < cs.length := by
  unfold escape? at h
  split at h
  · split at h
    · cases h
    · simp only [Option.map_eq_some_iff, Prod.mk.injEq] at h
      obtain ⟨_, _, _, rfl⟩ := h
      simp only [List.length_drop, List.length_cons]
      omega
  · split at h
    · cases h
    · simp only [Option.map_eq_some_iff, Prod.mk.injEq] at h
      obtain ⟨_, _, _, rfl⟩ := h
      simp only [List.length_drop, List.length_cons]
      omega
  · simp only [Option.map_eq_some_iff, Prod.mk.injEq] at h
    obtain ⟨_, _, _, rfl⟩ := h
    simp
  · cases h

/-! ## On one line -/

/-- The text of a string with escapes, after its opening quote. -/
def basic? (cs : List Char) : Option (List Char × List Char) :=
  match cs with
  | [] => none
  | '"' :: rest => some ([], rest)
  | '\\' :: rest =>
    match _h : escape? rest with
    | some (c, rest') => (basic? rest').map fun (text, end_) => (c :: text, end_)
    | none => none
  | c :: rest =>
    if isPlain c then (basic? rest).map fun (text, end_) => (c :: text, end_) else none
termination_by cs.length
decreasing_by
  · have := escape?_length _h
    simp only [List.length_cons]
    omega
  · simp only [List.length_cons]
    omega

/-- The text of a string without escapes, after its opening quote. -/
def literal? : List Char → Option (List Char × List Char)
  | [] => none
  | '\'' :: rest => some ([], rest)
  | c :: rest =>
    if isPlain c then (literal? rest).map fun (text, end_) => (c :: text, end_) else none

/-! ## Over several lines -/

/-- The text without a line break at its beginning. -/
def dropBreak : List Char → List Char
  | '\n' :: cs => cs
  | '\r' :: '\n' :: cs => cs
  | cs => cs

/-- The text without the white space and line breaks at its beginning. -/
def dropBlank : List Char → List Char
  | ' ' :: cs => dropBlank cs
  | '\t' :: cs => dropBlank cs
  | '\n' :: cs => dropBlank cs
  | '\r' :: '\n' :: cs => dropBlank cs
  | cs => cs

theorem dropBlank_length (cs : List Char) : (dropBlank cs).length ≤ cs.length := by
  fun_induction dropBlank cs with
  | case5 => exact Nat.le_refl _
  | case1 _ ih | case2 _ ih | case3 _ ih | case4 _ ih =>
    simp only [List.length_cons]
    omega

/-- The text without the spaces and tabs at its beginning. -/
def dropSpaces (cs : List Char) : List Char := cs.dropWhile fun c => c == ' ' || c == '\t'

/-- A line break comes after the spaces at the beginning of a text. -/
def breaksLine (cs : List Char) : Bool :=
  match dropSpaces cs with
  | '\n' :: _ => true
  | '\r' :: '\n' :: _ => true
  | _ => false

/-- The text of a string with escapes over several lines, after its opening
quotes. -/
def longBasic? (cs : List Char) : Option (List Char × List Char) :=
  match cs with
  | '"' :: '"' :: '"' :: '"' :: '"' :: rest => some (['"', '"'], rest)
  | '"' :: '"' :: '"' :: '"' :: rest => some (['"'], rest)
  | '"' :: '"' :: '"' :: rest => some ([], rest)
  | '\r' :: '\n' :: rest => (longBasic? rest).map fun (text, end_) => ('\n' :: text, end_)
  | '\\' :: rest =>
    if breaksLine rest then longBasic? (dropBlank rest)
    else
      match _h : escape? rest with
      | some (c, rest') => (longBasic? rest').map fun (text, end_) => (c :: text, end_)
      | none => none
  | c :: rest =>
    if isPlain c || c == '\n' then
      (longBasic? rest).map fun (text, end_) => (c :: text, end_)
    else none
  | [] => none
termination_by cs.length
decreasing_by
  · simp only [List.length_cons]
    omega
  · have := dropBlank_length rest
    simp only [List.length_cons]
    omega
  · have := escape?_length _h
    simp only [List.length_cons]
    omega
  · simp only [List.length_cons]
    omega

/-- The text of a string without escapes over several lines, after its
opening quotes. -/
def longLiteral? : List Char → Option (List Char × List Char)
  | '\'' :: '\'' :: '\'' :: '\'' :: '\'' :: rest => some (['\'', '\''], rest)
  | '\'' :: '\'' :: '\'' :: '\'' :: rest => some (['\''], rest)
  | '\'' :: '\'' :: '\'' :: rest => some ([], rest)
  | '\r' :: '\n' :: rest => (longLiteral? rest).map fun (text, end_) => ('\n' :: text, end_)
  | c :: rest =>
    if isPlain c || c == '\n' then
      (longLiteral? rest).map fun (text, end_) => (c :: text, end_)
    else none
  | [] => none

/-! ## All kinds -/

/-- The string of one line at the beginning of a text. -/
def shortText? : List Char → Option (String × List Char)
  | '"' :: cs => (basic? cs).map fun (text, rest) => (String.ofList text, rest)
  | '\'' :: cs => (literal? cs).map fun (text, rest) => (String.ofList text, rest)
  | _ => none

/-- The string of any kind at the beginning of a text. -/
def text? : List Char → Option (String × List Char)
  | '"' :: '"' :: '"' :: cs =>
    (longBasic? (dropBreak cs)).map fun (text, rest) => (String.ofList text, rest)
  | '\'' :: '\'' :: '\'' :: cs =>
    (longLiteral? (dropBreak cs)).map fun (text, rest) => (String.ofList text, rest)
  | cs => shortText? cs

end SearchQuery.Toml
