import SearchQuery.Command

/-!
# Shell words

A printed command line can be pasted into a shell. An argument of safe
characters stands as it is. Any other stands between single quotes, inside
which nothing has a meaning but the quote that ends them; a quote of the
argument itself is written between two quoted stretches, after a
backslash. Bytes have no written form and show their number.
-/

namespace SearchQuery.Shell

/-- A character that no shell gives a meaning to. -/
def isSafe (c : Char) : Bool :=
  c.isAlphanum || ['-', '_', '.', '/', ':', '@', ',', '=', '+', '%', '^'].contains c

/-- The characters of a quoted stretch, each quote taken out of it. -/
def quoteChars : List Char → List Char
  | [] => []
  | '\'' :: cs => '\'' :: '\\' :: '\'' :: '\'' :: quoteChars cs
  | c :: cs => c :: quoteChars cs

/-- A text as one word. -/
def word (s : String) : String :=
  if !s.isEmpty && s.toList.all isSafe then s
  else String.ofList ('\'' :: quoteChars s.toList ++ ['\''])

/-- An argument as one word. -/
def argument : Argument → String
  | .text value => word value
  | .bytes value => (Argument.bytes value).display

/-- Arguments as a line of words. -/
def line (args : List Argument) : String := " ".intercalate (args.map argument)

/-- The command line that runs a compiled query on an index. -/
def commandLine (index : String) (compiled : Compiled) : String :=
  compiled.command.name ++ " " ++ line (compiled.args index)

end SearchQuery.Shell
