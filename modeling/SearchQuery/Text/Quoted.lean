import SearchQuery.Text.Unprinted

/-!
# Quoted text in messages

A message shows a value in double quotes. The quote, the backslash and
the common control characters have short escapes; every other character
that would not show as itself is written by its code point.
-/

namespace SearchQuery.Text

/-- A character that a message writes by its code point. -/
def isUnprinted (c : Char) : Bool := inRanges unprintedRanges c

/-- A character as it stands between quotes. -/
def quotedChar (c : Char) : List Char :=
  match c with
  | '"' => ['\\', '"']
  | '\\' => ['\\', '\\']
  | '\n' => ['\\', 'n']
  | '\r' => ['\\', 'r']
  | '\t' => ['\\', 't']
  | '\x00' => ['\\', '0']
  | c =>
    if isUnprinted c then '\\' :: 'u' :: '{' :: Nat.toDigits 16 c.toNat ++ ['}'] else [c]

/-- A text in quotes. -/
def quoted (s : String) : String :=
  String.ofList ('"' :: s.toList.flatMap quotedChar ++ ['"'])

end SearchQuery.Text
