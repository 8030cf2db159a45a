import SearchQuery.Text.Blank

/-!
# Escaping in the query language

A backslash takes its meaning from the character after it. There are
three places where a value enters a query string, and they differ in what
they must escape:

- a free-text term (`text`): the special characters;
- a tag value (`tag`): those and the plain space, since a tag ends only at
  a delimiter;
- a field name (`field`): nothing, unless the name is a path, whose `$` and
  `.` would be read as syntax.

Other white space is never escaped.
-/

namespace SearchQuery.Escape

/-- The characters that mean something in a query string. -/
def specialChars : List Char :=
  ['-', '@', ':', '*', '[', ']', '(', ')', '{', '}', '+', '~', '"', '\'', '/', '%', '<', '>',
    '=', '|', '&', '^', '$', '.', ',', '!', '?', ';', '#', '\\']

/-- A character that means something in a query string. -/
def isSpecial (c : Char) : Bool := specialChars.contains c

/-- A character of a tag value that has to be escaped. -/
def isTagSpecial (c : Char) : Bool := isSpecial c || c == ' '

/-- A character of a path that has to be escaped. -/
def isPathSpecial (c : Char) : Bool := c == '$' || c == '.'

/-- A backslash before every character of a class. -/
def escapeChars (p : Char → Bool) : List Char → List Char
  | [] => []
  | c :: cs => if p c then '\\' :: c :: escapeChars p cs else c :: escapeChars p cs

/-- A value as a free-text term. -/
def text (s : String) : String := String.ofList (escapeChars isSpecial s.toList)

/-- A value as a tag. -/
def tag (s : String) : String := String.ofList (escapeChars isTagSpecial s.toList)

/-- A name that is a path into a document. -/
def isPath (name : String) : Bool := ['$', '.'].isPrefixOf name.toList

/-- A field name as it stands after `@`. -/
def field (name : String) : String :=
  if isPath name then String.ofList (escapeChars isPathSpecial name.toList) else name

/-- White space stands somewhere without a backslash before it. A backslash
covers the one character after it, whatever that is. -/
def hasOpenSpace : List Char → Bool
  | [] => false
  | '\\' :: [] => false
  | '\\' :: _ :: cs => hasOpenSpace cs
  | c :: cs => Text.isSpace c || hasOpenSpace cs

end SearchQuery.Escape
