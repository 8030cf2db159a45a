import SearchQuery.Sort

/-!
# Compiled queries

A compiled query is what a client sends: a query string, the values of
its placeholders, and the options of one of two commands. `Compiled.args`
lays all of it out as the command's argument list. A list of arguments
whose number varies has its count before it, so a keyword that is also the
name of a field is still read as a name.
-/

namespace SearchQuery

/-! ## Parameters -/

/-- The value of a placeholder. -/
inductive Parameter where
  | int (value : Int)
  | text (value : String)
  | bytes (value : List UInt8)
deriving DecidableEq, Repr

/-- The greatest integer that a parameter holds. -/
def maxParameter : Nat := 9223372036854775807

/-- A count as the value of a placeholder. One that is too large stands for
the greatest. -/
def Parameter.ofCount (count : UInt64) : Parameter := .int (min count.toNat maxParameter : Nat)

/-- The values of placeholders, in the order of their names. -/
abbrev Parameters : Type := List (String × Parameter)

namespace Parameters

/-- The parameters with one more value; one of the same name is replaced. -/
def insert (name : String) (value : Parameter) : Parameters → Parameters
  | [] => [(name, value)]
  | (other, old) :: rest =>
    if name < other then (name, value) :: (other, old) :: rest
    else if name == other then (name, value) :: rest
    else (other, old) :: insert name value rest

/-- The parameters of values given in any order. -/
def ofList (values : List (String × Parameter)) : Parameters :=
  values.foldl (fun parameters (name, value) => insert name value parameters) []

end Parameters

/-! ## Arguments -/

/-- An argument of a command. -/
inductive Argument where
  | text (value : String)
  | bytes (value : List UInt8)
deriving DecidableEq, Repr

namespace Argument

/-- A number as an argument. -/
def ofNat (n : Nat) : Argument := text (toString n)

/-- An argument as a reader sees it. -/
def display : Argument → String
  | text value => value
  | bytes value => "<" ++ toString value.length ++ " bytes>"

end Argument

/-- The value of a placeholder as an argument. -/
def Parameter.toArgument : Parameter → Argument
  | int value => .text (toString value)
  | text value => .text value
  | bytes value => .bytes value

/-! ## Options -/

/-- How many results a query asks for unless told. -/
def defaultResults : UInt64 := 10

/-- The query dialect unless told. -/
def defaultDialect : UInt32 := 2

/-- The options of a search. -/
structure SearchOptions where
  /-- The fields to return; none returns the whole document. -/
  returnFields : List String := []
  /-- How many results to pass over. -/
  offset : UInt64 := 0
  /-- How many results to return. -/
  num : UInt64 := defaultResults
  dialect : UInt32 := defaultDialect
  sortBy : Option SortKey := none
  /-- The terms have to appear in the order given. -/
  inOrder : Bool := false
  scorer : Option String := none
  withScores : Bool := false
  /-- Return names of documents only. -/
  noContent : Bool := false
deriving DecidableEq, Repr

/-- A computed field of a pipeline. -/
structure ApplyStep where
  expression : String
  name : String
deriving DecidableEq, Repr

/-- The pipeline of an aggregation that ranks by a computed score. -/
structure Pipeline where
  /-- The text scorer, if text scores are used. -/
  scorer : Option String
  /-- Make the text score a field of each row. -/
  addScores : Bool
  /-- The fields to load from each document. -/
  load : List String
  /-- The computed fields, in order. -/
  apply : List ApplyStep
  /-- The field that ranks the rows, greatest first. -/
  sortBy : String
  /-- How many rows the ranking keeps. -/
  max : UInt64
  dialect : UInt32
deriving DecidableEq, Repr

/-- The command that runs a query, with its options. -/
inductive Command where
  | search (options : SearchOptions)
  | aggregate (pipeline : Pipeline)
deriving DecidableEq, Repr

/-- A query that is ready to be sent. -/
structure Compiled where
  query : String
  params : Parameters
  command : Command
deriving DecidableEq, Repr

/-! ## The argument list -/

/-- The arguments of an option that is on. -/
def flag (on : Bool) (keyword : String) : List Argument := if on then [.text keyword] else []

/-- A keyword, a count and as many arguments; nothing for an empty list. -/
def counted (keyword : String) (args : List Argument) : List Argument :=
  if args.isEmpty then [] else .text keyword :: .ofNat args.length :: args

/-- The arguments of a scorer. -/
def scorerArgs : Option String → List Argument
  | some scorer => [.text "SCORER", .text scorer]
  | none => []

/-- The arguments of a sort key. -/
def sortArgs : Option SortKey → List Argument
  | some key => [.text "SORTBY", .text key.field, .text key.direction.name]
  | none => []

namespace SearchOptions

/-- The arguments of a search. -/
def args (options : SearchOptions) : List Argument :=
  flag options.noContent "NOCONTENT"
    ++ flag options.withScores "WITHSCORES"
    ++ counted "RETURN" (options.returnFields.map .text)
    ++ flag options.inOrder "INORDER"
    ++ scorerArgs options.scorer
    ++ sortArgs options.sortBy
    ++ [.text "LIMIT", .ofNat options.offset.toNat, .ofNat options.num.toNat]

end SearchOptions

namespace Pipeline

/-- A field as it is loaded: a path as it is, any other name after `@`. -/
def loadReference (field : String) : String :=
  if ['$'].isPrefixOf field.toList then field else "@" ++ field

/-- The arguments of a computed field. -/
def applyArgs (step : ApplyStep) : List Argument :=
  [.text "APPLY", .text step.expression, .text "AS", .text step.name]

/-- The arguments of an aggregation. -/
def args (pipeline : Pipeline) : List Argument :=
  scorerArgs pipeline.scorer
    ++ flag pipeline.addScores "ADDSCORES"
    ++ counted "LOAD" (pipeline.load.map fun field => .text (loadReference field))
    ++ pipeline.apply.flatMap applyArgs
    ++ [.text "SORTBY", .ofNat 2, .text ("@" ++ pipeline.sortBy), .text "DESC",
      .text "MAX", .ofNat pipeline.max.toNat]

end Pipeline

namespace Command

/-- The name of the command. -/
def name : Command → String
  | search _ => "FT.SEARCH"
  | aggregate _ => "FT.AGGREGATE"

/-- The dialect of the query. -/
def dialect : Command → UInt32
  | search options => options.dialect
  | aggregate pipeline => pipeline.dialect

/-- The arguments of the command's options. -/
def args : Command → List Argument
  | search options => options.args
  | aggregate pipeline => pipeline.args

end Command

/-- The arguments of the parameters: each name is followed by its value. -/
def Parameters.args (params : Parameters) : List Argument :=
  counted "PARAMS" (params.flatMap fun (name, value) => [.text name, value.toArgument])

/-- The argument list of a compiled query on an index. -/
def Compiled.args (index : String) (compiled : Compiled) : List Argument :=
  .text index :: .text compiled.query :: compiled.command.args ++ compiled.params.args
    ++ [.text "DIALECT", .ofNat compiled.command.dialect.toNat]

end SearchQuery
