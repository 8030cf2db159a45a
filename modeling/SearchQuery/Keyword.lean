import SearchQuery.Text.Lowercase

/-!
# Keywords

A setting with a closed list of values is an enumeration whose values have
canonical names. A name is read without regard to the case of its ASCII
letters and written in its canonical form.
-/

namespace SearchQuery

/-- An enumeration whose values are written by name. -/
class Keyword (α : Type) where
  /-- What the enumeration is called in a message. -/
  kind : String
  /-- The values, in the order in which their names are tried. -/
  all : List α
  /-- The canonical name. -/
  name : α → String

namespace Keyword

variable {α : Type} [Keyword α]

/-- The value of a name. -/
def find? (s : String) : Option α :=
  (Keyword.all : List α).find? fun a => Text.sameLetters (Keyword.name a) s

end Keyword

end SearchQuery
