import SearchQuery.Document.Reading
import SearchQuery.Keyword
import SearchQuery.Proofs.Binary.Widening
import SearchQuery.Proofs.Names
import SearchQuery.Spec.Parts

/-!
# Reading what was written

A value is read from the document that it was written as, and an entry from
the record that it was written into. An entry is found by its name because
the names of a record are distinct (`lookup_of_mem`), so a record of any
size is read one entry at a time. A value that may be absent is written as
null, which no reader of a value takes.
-/

namespace SearchQuery.Document

/-! ## Values -/

/-- A text is read back. -/
theorem text?_text (s : String) : text? (text s) = some s := rfl

theorem bool?_bool (b : Bool) : bool? (bool b) = some b := rfl

/-- A count is read back, as it fits its width. -/
theorem count?_natural (n : UInt64) : count? (natural n.toNat) = some n := by
  have hlt : n.toNat < UInt64.size := n.toNat_lt_size
  simp only [count?, natural?, Option.bind_eq_bind, Option.bind_some, if_pos hlt,
    UInt64.ofNat_toNat]

/-- A dialect is read back. -/
theorem dialect?_natural (n : UInt32) : dialect? (natural n.toNat) = some n := by
  have hlt : n.toNat < UInt32.size := n.toNat_lt_size
  simp only [dialect?, natural?, Option.bind_eq_bind, Option.bind_some, if_pos hlt,
    UInt32.ofNat_toNat]

/-- A finite number is read back: it is written exactly or with digits that tell
it from every other. -/
theorem double?_ofDouble {x : Double} (h : x.isFinite = true) : double? (ofDouble x) = some x := by
  rw [ofDouble, if_pos h]
  rfl

/-- An element in single precision is written in double precision, which
has it exactly. -/
theorem single?_ofDouble {x : Single} (h : x.isFinite = true) :
    single? (ofDouble x.convert) = some x := by
  rw [ofDouble, if_pos (Binary.convert_of_widens Format.single_widens_double h).1]
  exact congrArg some (Binary.convert_convert Format.single_widens_double h)

section Lists

variable {α : Type} {read : Document → Option α} {write : α → Document}

/-- A list is read back when each of its items is. -/
theorem list?_ofList {values : List α} (h : ∀ a ∈ values, read (write a) = some a) :
    list? read (ofList write values) = some values := by
  change (values.map write).mapM read = some values
  induction values with
  | nil => rfl
  | cons a values ih =>
    obtain ⟨ha, hvalues⟩ := List.forall_mem_cons.mp h
    rw [List.map_cons, List.mapM_cons, ha, ih hvalues]
    rfl

end Lists

theorem texts?_ofTexts (values : List String) : texts? (ofTexts values) = some values :=
  list?_ofList fun _ _ => rfl

/-! ## Records -/

/-- The entries of a record that has the declared names are read. -/
theorem entries?_record {names : List String} {entries : List (String × Document)}
    (hnames : entries.map Prod.fst = names) (hnodup : names.Nodup) :
    entries? names (record entries) = some entries := by
  have hall : names.all names.contains = true :=
    List.all_eq_true.mpr fun name hname => List.contains_iff_mem.mpr hname
  simp only [entries?, hnames, hall, hnodup, decide_true, Bool.and_true, if_true]

section Entries

variable {entries : List (String × Document)} {name : String} {α : Type}
  {read : Document → Option α}

/-- An entry that has to be there is read where it was written, if no other has
its name. -/
theorem required_of_mem (hnodup : (entries.map Prod.fst).Nodup) {d : Document} {a : α}
    (hmem : (name, d) ∈ entries) (h : read d = some a) :
    required entries name read = some a := by
  rw [required, lookup_of_mem hnodup hmem]
  exact h

/-- An entry that has a default is read where it was written, and not passed
over. -/
theorem withDefault_of_mem (hnodup : (entries.map Prod.fst).Nodup) {d : Document} {a : α}
    (hmem : (name, d) ∈ entries) (byDefault : α) (h : read d = some a) :
    withDefault entries name byDefault read = some a := by
  rw [withDefault, lookup_of_mem hnodup hmem]
  exact h

/-- A value that may be absent is read back, if its reader refuses null. -/
theorem optional_of_mem (hnodup : (entries.map Prod.fst).Nodup) {write : α → Document}
    {value : Option α} (hmem : (name, ofOption write value) ∈ entries) (hnull : read null = none)
    (h : ∀ a ∈ value, read (write a) = some a) :
    optional entries name read = some value := by
  rw [optional, lookup_of_mem hnodup hmem]
  cases value with
  | none => rfl
  | some a =>
    have ha : read (write a) = some a := h a rfl
    rw [ofOption]
    split
    · next hwritten =>
      rw [Option.some.inj hwritten, hnull] at ha
      cases ha
    · next hwritten =>
      cases hwritten
      rw [ha]
      rfl
    · next hwritten => cases hwritten

end Entries

/-! ## Kinds -/

/-- The kind of a record of a kind is read, and its entries are left. -/
theorem typed?_ofKind {entries : List (String × Document)} (kind : String)
    (h : typeName ∉ entries.map Prod.fst) :
    typed? (ofKind kind entries) = some (text kind, record entries) := by
  have hother : ∀ entry ∈ entries, entry.1 ≠ typeName :=
    fun entry hentry heq => h (List.mem_map.mpr ⟨entry, hentry, heq⟩)
  have hkept : entries.filter (fun entry => entry.1 != typeName) = entries :=
    List.filter_eq_self.mpr fun entry hentry => bne_iff_ne.mpr (hother entry hentry)
  have hnone : entries.filter (fun entry => entry.1 == typeName) = [] :=
    List.filter_eq_nil_iff.mpr fun entry hentry heq => hother entry hentry (beq_iff_eq.mp heq)
  simp only [typed?, ofKind, List.filter_cons, beq_self_eq_true, if_true, bne_self_eq_false,
    Bool.false_eq_true, if_false, hkept, hnone]

end SearchQuery.Document
