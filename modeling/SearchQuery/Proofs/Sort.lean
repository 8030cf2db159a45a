import SearchQuery.Proofs.Accepted
import SearchQuery.Sort

/-!
# Reduced sort orders

A sort order has four spellings, and each goes its own way to the one key that
is sorted by. The ways are compared here through two views of a specification
that know nothing of the reduction: the fields that it lists
(`SortSpec.fields`), and the way in which its first key sorts
(`SortSpec.Directs`).

## What is proved

`normalize_loses_nothing` — what comes of every specification. It rests on one
step (`normalize_of_directs`): a specification whose first key has a direction
goes the way of `SortSpec.chosen`, whatever its spelling. So two spellings of one
key come to the same, and all that can still be refused is the first field. The
one spelling that says its direction in words can be refused for the word, and
then the field is not looked at (`normalize_of_misdirected`).

A key is any record of a field and a flag, also one that was read and never
checked; nothing here assumes that its field has a name.
-/

namespace SearchQuery

/-! ## Directions -/

namespace Direction

/-- The letters of a direction, in lower case. -/
def letters : Direction → List Char
  | ascending => ['a', 's', 'c']
  | descending => ['d', 'e', 's', 'c']

/-- A word says a direction, in whatever case its ASCII letters are. -/
def IsSpelledBy (direction : Direction) (word : String) : Prop :=
  word.toList.map Char.toLower = direction.letters

instance (direction : Direction) (word : String) : Decidable (direction.IsSpelledBy word) :=
  inferInstanceAs (Decidable (_ = _))

/-- A direction is recognized by the words that spell it. -/
theorem sameLetters_name (direction : Direction) (word : String) :
    Text.sameLetters (Keyword.name direction) word = true ↔ direction.IsSpelledBy word := by
  have hletters : (Keyword.name direction).toList.map Char.toLower = direction.letters := by
    cases direction <;> decide
  rw [Text.sameLetters, hletters, beq_iff_eq, IsSpelledBy, eq_comm]

/-- A word says one direction at most. -/
theorem IsSpelledBy.unique {first second : Direction} {word : String}
    (h : first.IsSpelledBy word) (h' : second.IsSpelledBy word) : first = second := by
  have hsame : first.letters = second.letters := h.symm.trans h'
  cases first <;> cases second
  · rfl
  · exact absurd hsame (by decide)
  · exact absurd hsame (by decide)
  · rfl

theorem mem_all (direction : Direction) : direction ∈ (Keyword.all : List Direction) := by
  cases direction <;> decide

/-- A direction is read from the words that say it. -/
theorem read_of_isSpelledBy {direction : Direction} {word : String}
    (h : direction.IsSpelledBy word) : Keyword.read word = .ok direction := by
  have hsome : (Keyword.find? word : Option Direction).isSome := by
    rw [Keyword.find?, List.find?_isSome]
    exact ⟨direction, direction.mem_all, (sameLetters_name direction word).mpr h⟩
  obtain ⟨found, hfound⟩ := Option.isSome_iff_exists.mp hsome
  have hsame : Text.sameLetters (Keyword.name found) word = true :=
    List.find?_some (p := fun direction => Text.sameLetters (Keyword.name direction) word) hfound
  rw [Keyword.read, hfound, h.unique ((sameLetters_name found word).mp hsame)]

/-- Any other word is refused. -/
theorem read_of_forall_not_isSpelledBy {word : String}
    (h : ∀ direction : Direction, ¬direction.IsSpelledBy word) :
    (Keyword.read word : Except Invalid Direction)
      = .error (.unknownKeyword "sort direction" word) := by
  have hnone : (Keyword.find? word : Option Direction) = none := by
    rw [Keyword.find?, List.find?_eq_none]
    exact fun direction _ hsame => h direction ((sameLetters_name direction word).mp hsame)
  rw [Keyword.read, hnone]
  rfl

end Direction

/-- A key is made with the flag of its direction. -/
theorem SortKey.direction_mk (field : String) (direction : Direction) :
    SortKey.direction ⟨field, direction == .ascending⟩ = direction := by
  cases direction <;> rfl

/-- A key is the key of its field and direction. -/
theorem SortKey.mk_direction (key : SortKey) :
    (⟨key.field, key.direction == .ascending⟩ : SortKey) = key := by
  obtain ⟨field, ascending⟩ := key
  cases ascending <;> rfl

namespace SortSpec

/-! ## Views of a specification -/

/-- The fields that a specification lists, in order of rank. -/
def fields : SortSpec → List String
  | field name => [name]
  | directed name _ => [name]
  | key given => [given.field]
  | keys given => given.map (·.field)

/-- The first key of a specification sorts this way. -/
inductive Directs : SortSpec → Direction → Prop
  | field (name : String) : Directs (field name) .ascending
  | directed (name : String) {word : String} {direction : Direction} :
    direction.IsSpelledBy word → Directs (directed name word) direction
  | key (given : SortKey) : Directs (key given) given.direction
  | keys (first : SortKey) (rest : List SortKey) : Directs (keys (first :: rest)) first.direction

/-- A specification has a first key that sorts some way, or no key at all, or it
says its direction by a word that is none. -/
theorem directs_or_empty_or_misdirected (spec : SortSpec) :
    (∃ direction, spec.Directs direction) ∨ spec = keys [] ∨
      ∃ name word, spec = directed name word ∧
        ∀ direction : Direction, ¬direction.IsSpelledBy word := by
  cases spec with
  | field name => exact .inl ⟨_, .field name⟩
  | directed name word =>
    by_cases h : ∃ direction : Direction, direction.IsSpelledBy word
    · obtain ⟨direction, hspelled⟩ := h
      exact .inl ⟨direction, .directed name hspelled⟩
    · exact .inr (.inr ⟨name, word, rfl, not_exists.mp h⟩)
  | key given => exact .inl ⟨_, .key given⟩
  | keys given =>
    cases given with
    | nil => exact .inr (.inl rfl)
    | cons first rest => exact .inl ⟨_, .keys first rest⟩

/-- What a specification can be refused for: a word that says no direction,
whatever the field is; and a first field without a name, where there is no such
word. -/
inductive IsRefusedFor : SortSpec → Invalid → Prop
  | direction (name : String) {word : String} :
    (∀ direction : Direction, ¬direction.IsSpelledBy word) →
    IsRefusedFor (directed name word) (.unknownKeyword "sort direction" word)
  | field {spec : SortSpec} {direction : Direction} {name : String} {rest : List String} :
    spec.Directs direction → spec.fields = name :: rest → Text.isBlank name = true →
    IsRefusedFor spec (.blankField "sort field")

/-- An order keeps what a specification asks for: the key that is sorted by and
the fields that were dropped are the fields listed, and something was dropped
only of a list of two keys or more. The key is all that is left to ask for. -/
structure IsReducedTo (spec : SortSpec) (order : SortOrder) : Prop where
  kept : (spec = keys [] ∧ order.key = none ∧ order.discarded = []) ∨
    ∃ key, order.key = some key ∧ key.field :: order.discarded = spec.fields ∧
      spec.Directs key.direction
  lossy : order.isLossy = true ↔ ∃ given, spec = keys given ∧ 1 < given.length
  again : ∀ key ∈ order.key, (SortSpec.key key).normalize = .ok ⟨some key, []⟩

/-! ## The way of every spelling -/

/-- A field without a name is refused in either direction. -/
theorem chosen_of_isBlank {name : String} (h : Text.isBlank name = true) (direction : Direction)
    (discarded : List String) :
    chosen name direction discarded = .error (.blankField "sort field") := by
  rw [chosen, SortKey.make, requireName, h]
  rfl

/-- A field that has a name is the key, in the direction given, and the others
are dropped. -/
theorem chosen_of_not_isBlank {name : String} (h : Text.isBlank name = false)
    (direction : Direction) (discarded : List String) :
    chosen name direction discarded = .ok ⟨some ⟨name, direction == .ascending⟩, discarded⟩ := by
  rw [chosen, SortKey.make, requireName, h]
  rfl

/-- Whatever its spelling, a specification whose first key has a direction is
reduced to that key, and the fields of the others are dropped. -/
theorem normalize_of_directs {spec : SortSpec} {direction : Direction}
    (h : spec.Directs direction) :
    ∃ name rest, spec.fields = name :: rest ∧ spec.normalize = chosen name direction rest := by
  cases h with
  | field name => exact ⟨name, [], rfl, rfl⟩
  | @directed name word direction hspelled =>
    refine ⟨name, [], rfl, ?_⟩
    rw [normalize, Direction.read_of_isSpelledBy hspelled]
    rfl
  | key given => exact ⟨given.field, [], rfl, rfl⟩
  | keys first rest => exact ⟨first.field, _, rfl, rfl⟩

/-- A word that says no direction is refused before the field is looked at. -/
theorem normalize_of_misdirected {word : String}
    (h : ∀ direction : Direction, ¬direction.IsSpelledBy word) (name : String) :
    (directed name word).normalize = .error (.unknownKeyword "sort direction" word) := by
  rw [normalize, Direction.read_of_forall_not_isSpelledBy h]
  rfl

/-- Two spellings of one key come to the same. -/
theorem normalize_eq_of_directs {spec other : SortSpec} {direction : Direction}
    (h : spec.Directs direction) (h' : other.Directs direction)
    (hfields : spec.fields = other.fields) : spec.normalize = other.normalize := by
  obtain ⟨name, rest, hspec, hnormalize⟩ := normalize_of_directs h
  obtain ⟨name', rest', hother, hnormalize'⟩ := normalize_of_directs h'
  rw [hfields, hother] at hspec
  cases hspec
  rw [hnormalize, hnormalize']

/-- A key that has a name is its own reduction. -/
theorem normalize_key {key : SortKey} (h : Text.isBlank key.field = false) :
    (SortSpec.key key).normalize = .ok ⟨some key, []⟩ := by
  rw [normalize, chosen_of_not_isBlank h, key.mk_direction]

/-! ## What comes of a specification -/

/-- Something is dropped where more than one field is listed, and only a list of
keys lists more than one. -/
theorem one_lt_length_fields_iff (spec : SortSpec) :
    1 < spec.fields.length ↔ ∃ given, spec = keys given ∧ 1 < given.length := by
  cases spec with
  | keys given => simp [fields]
  | _ => simp [fields]

/-- An order that was reduced keeps what its specification asks for. -/
theorem isReducedTo_of_normalize {spec : SortSpec} {order : SortOrder}
    (h : spec.normalize = .ok order) : spec.IsReducedTo order := by
  obtain ⟨direction, hdirects⟩ | rfl | ⟨name, word, rfl, hword⟩ :=
    spec.directs_or_empty_or_misdirected
  · obtain ⟨name, rest, hfields, hnormalize⟩ := normalize_of_directs hdirects
    rw [hnormalize] at h
    cases hname : Text.isBlank name with
    | true =>
      rw [chosen_of_isBlank hname] at h
      cases h
    | false =>
      rw [chosen_of_not_isBlank hname] at h
      cases h
      refine ⟨.inr ⟨_, rfl, hfields.symm, ?_⟩, ?_, ?_⟩
      · rwa [SortKey.direction_mk]
      · have hlength : 1 < spec.fields.length ↔ rest ≠ [] := by
          rw [hfields, List.length_cons, ← List.length_pos_iff]
          omega
        rw [← one_lt_length_fields_iff, hlength, SortOrder.isLossy]
        simp
      · rintro key ⟨⟩
        exact normalize_key hname
  · cases h
    refine ⟨.inl ⟨rfl, rfl, rfl⟩, ?_, nofun⟩
    rw [← one_lt_length_fields_iff]
    exact iff_of_false (by decide) (by decide)
  · rw [normalize_of_misdirected hword] at h
    cases h

/-- A specification is refused for the causes that it can be refused for, and
for no others. -/
theorem normalize_eq_error {spec : SortSpec} {cause : Invalid} :
    spec.normalize = .error cause ↔ spec.IsRefusedFor cause := by
  constructor
  · intro h
    obtain ⟨direction, hdirects⟩ | rfl | ⟨name, word, rfl, hword⟩ :=
      spec.directs_or_empty_or_misdirected
    · obtain ⟨name, rest, hfields, hnormalize⟩ := normalize_of_directs hdirects
      rw [hnormalize] at h
      cases hname : Text.isBlank name with
      | true =>
        rw [chosen_of_isBlank hname] at h
        cases h
        exact .field hdirects hfields hname
      | false =>
        rw [chosen_of_not_isBlank hname] at h
        cases h
    · cases h
    · rw [normalize_of_misdirected hword] at h
      cases h
      exact .direction name hword
  · intro h
    cases h with
    | direction name hword => exact normalize_of_misdirected hword name
    | @field _ direction name rest hdirects hfields hblank =>
      obtain ⟨name', rest', hfields', hnormalize⟩ := normalize_of_directs hdirects
      rw [hfields] at hfields'
      cases hfields'
      rw [hnormalize, chosen_of_isBlank hblank]

/-- **A reduction loses nothing in silence.** An order keeps the first key and
reports the fields of all others; a specification is refused for its direction
or its first field and for nothing else, so the keys behind the first may be
anything; the spellings of one key come to the same; and what was reduced stays
as it is. -/
theorem normalize_loses_nothing :
    (∀ (spec : SortSpec) (order : SortOrder), spec.normalize = .ok order →
      spec.IsReducedTo order) ∧
    (∀ (spec : SortSpec) (cause : Invalid),
      spec.normalize = .error cause ↔ spec.IsRefusedFor cause) ∧
    (∀ (first : SortKey) (rest : List SortKey) (cause : Invalid),
      (keys (first :: rest)).normalize = .error cause ↔ (key first).normalize = .error cause) ∧
    (∀ name : String, (field name).normalize = (key ⟨name, true⟩).normalize) ∧
    (∀ (given : SortKey) (word : String), given.direction.IsSpelledBy word →
      (directed given.field word).normalize = (key given).normalize) ∧
    ∀ given : SortKey, (keys [given]).normalize = (key given).normalize := by
  refine ⟨fun _ _ => isReducedTo_of_normalize, fun _ _ => normalize_eq_error, ?_, ?_, ?_, ?_⟩
  · intro first rest cause
    -- the direction and the first field of the list are those of its first key
    cases hname : Text.isBlank first.field with
    | true => rw [normalize, normalize, chosen_of_isBlank hname, chosen_of_isBlank hname]
    | false =>
      rw [normalize, normalize, chosen_of_not_isBlank hname, chosen_of_not_isBlank hname]
      exact iff_of_false nofun nofun
  · intro name
    exact normalize_eq_of_directs (.field name) (.key ⟨name, true⟩) rfl
  · intro given word hword
    exact normalize_eq_of_directs (.directed given.field hword) (.key given) rfl
  · intro given
    exact normalize_eq_of_directs (.keys given []) (.key given) rfl

/-- Three keys of which the second has no name, and a direction in mixed case. -/
theorem normalize_loses_nothing_unnamed :
    let spec := keys [⟨"rating", false⟩, ⟨" ", true⟩, ⟨"age", true⟩]
    let order : SortOrder := ⟨some ⟨"rating", false⟩, [" ", "age"]⟩
    let given : SortKey := ⟨"price", false⟩
    spec.normalize = .ok order ∧ spec.IsReducedTo order ∧ given.direction.IsSpelledBy "DeSc" ∧
      (directed given.field "DeSc").normalize = (key given).normalize := by
  intro spec order given
  have hspec : spec.normalize = .ok order := by decide
  have hword : given.direction.IsSpelledBy "DeSc" := by decide
  obtain ⟨hreduced, -, -, -, hdirected, -⟩ := normalize_loses_nothing
  exact ⟨hspec, hreduced spec order hspec, hword, hdirected given "DeSc" hword⟩

end SortSpec

end SearchQuery
