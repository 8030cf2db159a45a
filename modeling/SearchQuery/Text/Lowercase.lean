import SearchQuery.Text.Casing

/-!
# Lower case

Lower-casing a text maps each character by the full Unicode mapping. One
rule looks beyond the character: a capital sigma at the end of a word
becomes the final form. It stands at the end of a word when, transparent
characters skipped, a cased character comes before it and none after.
-/

namespace SearchQuery.Text

/-- The `Cased` property. -/
def isCased (c : Char) : Bool := inRanges casedRanges c

/-- The `Case_Ignorable` property. -/
def isCaseIgnorable (c : Char) : Bool := inRanges caseIgnorableRanges c

/-- The run that maps a character, if one does. -/
def lowerRun? (c : Char) : Option LowerRun :=
  lowerRuns.find? fun run =>
    run.first ≤ c.toNat && c.toNat ≤ run.last && (c.toNat - run.first) % run.stride == 0

/-- The lower-case form of a character outside any word. One character has
a form of two. -/
def lowerChar (c : Char) : List Char :=
  if c == 'İ' then ['i', Char.ofNat 0x307]
  else
    match lowerRun? c with
    | some run => [Char.ofNat ((c.toNat : Int) + run.shift).toNat]
    | none => [c]

/-- The first character that is not transparent is cased. -/
def leadsToCased (cs : List Char) : Bool :=
  match cs.dropWhile isCaseIgnorable with
  | c :: _ => isCased c
  | [] => false

/-- The lower-case form of the characters that follow others, which are
given nearest first. -/
def lowerAfter (before : List Char) : List Char → List Char
  | [] => []
  | c :: cs =>
    let lowered :=
      if c == 'Σ' then
        if leadsToCased before && !leadsToCased cs then ['ς'] else ['σ']
      else lowerChar c
    lowered ++ lowerAfter (c :: before) cs

/-- The lower-case form of a text. -/
def lower (cs : List Char) : List Char := lowerAfter [] cs

/-- Two texts are equal but for the case of ASCII letters. -/
def sameLetters (s t : String) : Bool :=
  s.toList.map Char.toLower == t.toList.map Char.toLower

end SearchQuery.Text
