import SearchQuery.Filter.Field

/-!
# Conditions on text

The value of a text condition is escaped, so it matches as it is whatever
characters it has. The operators around it — quotes, `*`, `%`, `w'…'` — are
the only syntax. A wildcard pattern keeps its own `*` and `?`, and only its
quotes are escaped.
-/

namespace SearchQuery.Filter

/-- A text condition of a field. -/
def textLeaf (field expression : String) : Filter := leaf ⟨.text, field, expression⟩

/-- A term, or several in parentheses, of a field. -/
def terms (ref value : String) : String :=
  if value.isEmpty then wildcard
  else
    let escaped := Escape.text value
    if Escape.hasOpenSpace escaped.toList then ref ++ ":(" ++ escaped ++ ")"
    else ref ++ ":" ++ escaped

/-- The field holds the terms of a value. A blank value asks for nothing. -/
def text (field value : String) : Except Invalid Filter := do
  let ref ← fieldRef field
  return textLeaf field (terms ref (Text.trim value))

/-- The field does not hold the terms of a value. -/
def textNot (field value : String) : Except Invalid Filter := do
  return not (← text field value)

/-- The field holds a phrase. -/
def exact (field phrase : String) : Except Invalid Filter := do
  let ref ← fieldRef field
  let phrase ← required "phrase" phrase
  return textLeaf field (ref ++ ":\"" ++ Escape.text phrase ++ "\"")

/-- The field holds a word with this beginning. -/
def startsWith (field beginning : String) : Except Invalid Filter := do
  let ref ← fieldRef field
  let beginning ← required "prefix" beginning
  return textLeaf field (ref ++ ":" ++ Escape.text beginning ++ "*")

/-- The field holds a word within one edit of a term. -/
def fuzzy (field term : String) : Except Invalid Filter := do
  let ref ← fieldRef field
  let term ← required "fuzzy term" term
  return textLeaf field (ref ++ ":%" ++ Escape.text term ++ "%")

/-- A pattern between single quotes: those inside it are escaped. -/
def quotePattern (pattern : String) : String :=
  "'" ++ String.ofList (Escape.escapeChars (· == '\'') pattern.toList) ++ "'"

/-- The field holds a word of a wildcard pattern. -/
def pattern (field pattern : String) : Except Invalid Filter := do
  let ref ← fieldRef field
  let pattern ← required "wildcard pattern" pattern
  return textLeaf field (ref ++ ":w" ++ quotePattern pattern)

end SearchQuery.Filter
