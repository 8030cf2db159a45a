import SearchQuery.Binary.Rounding
import SearchQuery.Document.Basic

/-!
# Reading documents

A setting is read from a document by its kind, and a structure of settings
from a record by the names it declares. A record may also be written as
the list of its values in the order of declaration, later ones left out.
A declared name may not come twice. An undeclared one is refused, except
by the readers that say otherwise.
-/

namespace SearchQuery

namespace Document

/-! ## Values -/

/-- The text of a document. -/
def text? : Document → Option String
  | text s => some s
  | _ => none

/-- The truth value of a document. -/
def bool? : Document → Option Bool
  | bool b => some b
  | _ => none

/-- The integer of a document that is not negative. -/
def natural? : Document → Option Nat
  | natural n => some n
  | integer n => if 0 ≤ n then some n.toNat else none
  | _ => none

/-- A count: an integer of 64 bits without a sign. -/
def count? (d : Document) : Option UInt64 := do
  let n ← d.natural?
  if n < UInt64.size then some (UInt64.ofNat n) else none

/-- A dialect: an integer of 32 bits without a sign. -/
def dialect? (d : Document) : Option UInt32 := do
  let n ← d.natural?
  if n < UInt32.size then some (UInt32.ofNat n) else none

/-- The double-precision number of a document. -/
def double? : Document → Option Double
  | natural n => some (Binary.ofInt n)
  | integer n => some (Binary.ofInt n)
  | float x => some x
  | _ => none

/-- The single-precision number of a document. An integer is rounded once,
from its own value. -/
def single? : Document → Option Single
  | natural n => some (Binary.ofInt n)
  | integer n => some (Binary.ofInt n)
  | float x => some x.convert
  | _ => none

/-- The values of a list. -/
def list? {α : Type} (read : Document → Option α) : Document → Option (List α)
  | list items => items.mapM read
  | _ => none

/-- The texts of a list. -/
def texts? (d : Document) : Option (List String) := d.list? text?

/-! ## Records -/

/-- The entries of a record whose names are declared and come once, or the
values of a list under the names in their order. -/
def entries? (names : List String) : Document → Option (List (String × Document))
  | record entries =>
    let given := entries.map (·.1)
    if given.all names.contains && given.Nodup then some entries else none
  | list items => if items.length ≤ names.length then some (names.zip items) else none
  | _ => none

/-- The declared entries of a record, which come once; others are passed
over. -/
def knownEntries? (names : List String) : Document → Option (List (String × Document))
  | record entries => entries? names (record (entries.filter fun entry => names.contains entry.1))
  | d => d.entries? names

/-- The value of an entry that must be there. -/
def required {α : Type} (entries : List (String × Document)) (name : String)
    (read : Document → Option α) : Option α := do
  read (← entries.lookup name)

/-- The value of an entry that has a default. -/
def withDefault {α : Type} (entries : List (String × Document)) (name : String) (byDefault : α)
    (read : Document → Option α) : Option α :=
  match entries.lookup name with
  | some d => read d
  | none => some byDefault

/-- The value of an entry that may be absent, or null. -/
def optional {α : Type} (entries : List (String × Document)) (name : String)
    (read : Document → Option α) : Option (Option α) :=
  match entries.lookup name with
  | some null => some none
  | some d => (read d).map some
  | none => some none

/-! ## Kinds

Where a record can be of several kinds, the entry `type` names the one it
is. It stands anywhere in a record, and first in a list. -/

/-- The name of the entry that says what a record is. -/
def typeName : String := "type"

/-- The entry that says what a record is, and the document without it. -/
def typed? : Document → Option (Document × Document)
  | record entries =>
    match entries.filter fun entry => entry.1 == typeName with
    | [(_, kind)] => some (kind, record (entries.filter fun entry => entry.1 != typeName))
    | _ => none
  | list (kind :: items) => some (kind, list items)
  | _ => none

/-- The name of a variant, with what the variant carries if it is written
as a record of one entry. -/
def variant? : Document → Option (String × Option Document)
  | text name => some (name, none)
  | record [(name, value)] => some (name, some value)
  | _ => none

/-- A record of a kind. -/
def ofKind (kind : String) (entries : List (String × Document)) : Document :=
  record ((typeName, text kind) :: entries)

end Document

end SearchQuery
