import Mathlib
import SearchQuery.Command

/-!
# Reading an argument list

A reader of an argument list knows the name of the command and nothing
else. It takes the index and the query string, and then goes from section
to section: the keyword says which section it is, and the section says how
many arguments belong to it, by its kind or by a printed count. A name
inside a section is never looked at as a keyword.

`readSections` is that loop, for any kind of section; `searchSection?` and
`aggregateSection?` are the sections of the two commands, and
`Outline.read?` is the reader. Sections may come in any order.

Each reader of an operand stands beside the law that it reads back what is
written.
-/

namespace SearchQuery

/-! ## Operands -/

namespace Argument

/-- The text of an argument. -/
def text? : Argument → Option String
  | text value => some value
  | bytes _ => none

/-- The number that an argument spells. -/
def nat? (arg : Argument) : Option Nat := arg.text?.bind String.toNat?

@[simp] theorem nat?_ofNat (n : Nat) : (ofNat n).nat? = some n := Nat.toNat?_repr n

end Argument

/-- The operands behind a count. -/
def counted? : List Argument → Option (List Argument)
  | [] => none
  | count :: args => do
    let n ← count.nat?
    if n ≤ args.length then some (args.take n) else none

/-- Operands are read up to their count. -/
theorem counted?_ofNat (operands rest : List Argument) :
    counted? (.ofNat operands.length :: (operands ++ rest)) = some operands := by
  have hle : operands.length ≤ (operands ++ rest).length := by
    rw [List.length_append]
    omega
  simp only [counted?, Argument.nat?_ofNat, Option.bind_eq_bind, Option.bind_some, if_pos hle,
    List.take_left]

/-- The texts of some arguments. -/
def texts? (args : List Argument) : Option (List String) := args.mapM Argument.text?

theorem texts?_map (texts : List String) : texts? (texts.map .text) = some texts := by
  induction texts with
  | nil => rfl
  | cons text texts ih =>
    unfold texts? at ih ⊢
    rw [List.map_cons, List.mapM_cons, ih]
    rfl

/-- The names and values of some parameters. -/
def pairs? : List Argument → Option (List (String × Argument))
  | [] => some []
  | .text name :: value :: args => (pairs? args).map ((name, value) :: ·)
  | _ => none

/-- The name of a field that was written behind the sign of a field. -/
def unsigned? (written : String) : Option String :=
  match written.toList with
  | '@' :: name => some (String.ofList name)
  | _ => none

@[simp] theorem unsigned?_append (name : String) : unsigned? ("@" ++ name) = some name := by
  rw [unsigned?, String.toList_append]
  exact congrArg some String.ofList_toList

/-- The name of a field to load: a path stands as it is. -/
def loaded? (written : String) : Option String :=
  if ['$'].isPrefixOf written.toList then some written else unsigned? written

/-- A field to load is found behind its sign, and a path as it is. -/
theorem loaded?_loadReference (field : String) :
    loaded? (Pipeline.loadReference field) = some field := by
  unfold Pipeline.loadReference
  split
  · next hpath => rw [loaded?, if_pos hpath]
  · have hsign : ['$'].isPrefixOf ("@" ++ field).toList = false := by
      rw [String.toList_append]
      rfl
    rw [loaded?, if_neg (by rw [hsign]; exact Bool.false_ne_true), unsigned?_append]

/-! ## Sections -/

/-- What is known of a compiled query once some sections are read. -/
structure Gathered (α : Type) where
  options : α
  params : List (String × Argument) := []

/-- The loop over the sections. A section answers what is known after it
and how many arguments behind its keyword belong to it. -/
def readSections {σ : Type} (section? : σ → String → List Argument → Option (σ × Nat)) (s : σ) :
    List Argument → Option σ
  | [] => some s
  | .bytes _ :: _ => none
  | .text keyword :: args =>
    match section? s keyword args with
    | some (next, used) => readSections section? next (args.drop used)
    | none => none
termination_by args => args.length
decreasing_by
  simp only [List.length_drop, List.length_cons]
  omega

/-- The parameters behind a count. -/
def paramsOperands? (args : List Argument) : Option (List (String × Argument) × Nat) := do
  let operands ← counted? args
  let params ← pairs? operands
  return (params, 1 + operands.length)

/-- The sections of a search. -/
def searchSection? (g : Gathered SearchOptions) (keyword : String) (args : List Argument) :
    Option (Gathered SearchOptions × Nat) :=
  match keyword, args with
  | "NOCONTENT", _ => some ({ g with options.noContent := true }, 0)
  | "WITHSCORES", _ => some ({ g with options.withScores := true }, 0)
  | "RETURN", args => do
    let operands ← counted? args
    let fields ← texts? operands
    return ({ g with options.returnFields := fields }, 1 + operands.length)
  | "INORDER", _ => some ({ g with options.inOrder := true }, 0)
  | "SCORER", .text scorer :: _ => some ({ g with options.scorer := some scorer }, 1)
  | "SORTBY", .text field :: .text "ASC" :: _ =>
    some ({ g with options.sortBy := some ⟨field, true⟩ }, 2)
  | "SORTBY", .text field :: .text "DESC" :: _ =>
    some ({ g with options.sortBy := some ⟨field, false⟩ }, 2)
  | "LIMIT", offset :: num :: _ => do
    let offset ← offset.nat?
    let num ← num.nat?
    return ({ g with options.offset := .ofNat offset, options.num := .ofNat num }, 2)
  | "PARAMS", args => do
    let (params, used) ← paramsOperands? args
    return ({ g with params }, used)
  | "DIALECT", dialect :: _ => do
    let dialect ← dialect.nat?
    return ({ g with options.dialect := .ofNat dialect }, 1)
  | _, _ => none

/-- The sections of an aggregation. -/
def aggregateSection? (g : Gathered Pipeline) (keyword : String) (args : List Argument) :
    Option (Gathered Pipeline × Nat) :=
  match keyword, args with
  | "SCORER", .text scorer :: _ => some ({ g with options.scorer := some scorer }, 1)
  | "ADDSCORES", _ => some ({ g with options.addScores := true }, 0)
  | "LOAD", args => do
    let operands ← counted? args
    let references ← texts? operands
    let fields ← references.mapM loaded?
    return ({ g with options.load := fields }, 1 + operands.length)
  | "APPLY", .text expression :: .text "AS" :: .text name :: _ =>
    some ({ g with options.apply := g.options.apply ++ [⟨expression, name⟩] }, 3)
  | "SORTBY", args => do
    let operands ← counted? args
    match operands with
    | [.text reference, .text "DESC"] =>
      let field ← unsigned? reference
      return ({ g with options.sortBy := field }, 1 + operands.length)
    | _ => none
  | "MAX", max :: _ => do
    let max ← max.nat?
    return ({ g with options.max := .ofNat max }, 1)
  | "PARAMS", args => do
    let (params, used) ← paramsOperands? args
    return ({ g with params }, used)
  | "DIALECT", dialect :: _ => do
    let dialect ← dialect.nat?
    return ({ g with options.dialect := .ofNat dialect }, 1)
  | _, _ => none

/-! ## The reader -/

/-- The parameters with their values as arguments. -/
def Parameters.shown (params : Parameters) : List (String × Argument) :=
  params.map fun (name, value) => (name, value.toArgument)

/-- What an argument list says. -/
@[ext] structure Outline where
  index : String
  query : String
  command : Command
  /-- The parameters, each with its value as an argument. -/
  params : List (String × Argument)

namespace Outline

/-- What is said of a compiled query on an index. -/
def ofCompiled (index : String) (c : Compiled) : Outline :=
  ⟨index, c.query, c.command, c.params.shown⟩

/-- The pipeline of an aggregation of which nothing is known. -/
def blankPipeline : Pipeline := ⟨none, false, [], [], "", 0, 0⟩

/-- The reader: it is told the name of the command. -/
def read? (command : String) : List Argument → Option Outline
  | .text index :: .text query :: args =>
    match command with
    | "FT.SEARCH" =>
      (readSections searchSection? ⟨{}, []⟩ args).map fun g =>
        ⟨index, query, .search g.options, g.params⟩
    | "FT.AGGREGATE" =>
      (readSections aggregateSection? ⟨blankPipeline, []⟩ args).map fun g =>
        ⟨index, query, .aggregate g.options, g.params⟩
    | _ => none
  | _ => none

end Outline

end SearchQuery
