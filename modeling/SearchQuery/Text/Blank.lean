import SearchQuery.Text.Ranges

/-!
# White space

White space is the Unicode property of that name. It holds of the plain
space and two dozen other characters, among them the no-break space and
the ideographic space, and not of the zero-width ones. Trimming, splitting
into words and the notion of a blank text all use this one property.
-/

namespace SearchQuery.Text

/-- The `White_Space` property. -/
def blankRanges : List Range := [
  (0x9, 0xD), (0x20, 0x20), (0x85, 0x85), (0xA0, 0xA0), (0x1680, 0x1680), (0x2000, 0x200A),
  (0x2028, 0x2029), (0x202F, 0x202F), (0x205F, 0x205F), (0x3000, 0x3000)
]

/-- A white-space character. -/
def isSpace (c : Char) : Bool := inRanges blankRanges c

/-- The characters without those of a class at either end. -/
def strip (p : Char → Bool) (cs : List Char) : List Char :=
  ((cs.dropWhile p).reverse.dropWhile p).reverse

/-- A text without the white space at its ends. -/
def trim (s : String) : String := String.ofList (strip isSpace s.toList)

/-- A text of white space only, or none. -/
def isBlank (s : String) : Bool := s.toList.all isSpace

/-- The stretches between white-space characters, empty ones included. -/
def pieces : List Char → List (List Char)
  | [] => [[]]
  | c :: cs =>
    if isSpace c then [] :: pieces cs
    else
      match pieces cs with
      | piece :: rest => (c :: piece) :: rest
      | [] => [[c]]

/-- The words of a text: its longest stretches without white space. -/
def words (cs : List Char) : List (List Char) :=
  (pieces cs).filter fun piece => !piece.isEmpty

end SearchQuery.Text
