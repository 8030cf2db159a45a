/-!
# Arguments of the command line

What the program is asked to do. Options stand before or after the name of
a subcommand, as their level says; `--config` stands at any level, and the
innermost one counts. No option is given twice at one level. An option's
value is the next argument, or is joined to the option. After `--` every
argument is a plain one.

Asking for the version settles the matter at once, and so does the option
that asks for help. Where subcommands are named, `help` may stand in their
place: the arguments after it name a topic, subcommand by subcommand, and
each must exist.
-/

namespace SearchQuery.CommandLine

/-- How a result is printed. -/
inductive OutputFormat where
  | text
  | json
deriving DecidableEq, Repr

/-- What to do. -/
inductive Task where
  /-- Compile a query file for an index. -/
  | compile (file index : String)
  /-- Escape a text, or a tag. -/
  | escape (text : String) (tag : Bool)
  | configShow
  | configInit
  | configPath
deriving DecidableEq, Repr

/-- A request that can be carried out. -/
structure Request where
  config : Option String
  format : OutputFormat
  task : Task
deriving DecidableEq, Repr

/-- What the arguments come to. -/
inductive Parsed where
  | request (request : Request)
  | version
  | help
  /-- The arguments cannot be understood. -/
  | misuse
deriving DecidableEq, Repr

/-! ## Levels and options -/

/-- Where in the arguments the reader is: before a subcommand, or after
which. -/
inductive Level where
  | root
  | compile
  | escape
  | config
  | configShow
  | configInit
  | configPath
deriving DecidableEq, Repr

/-- An option. -/
inductive Switch where
  | config
  | verbose
  | format
  | index
  | tag
  | version
  | help
deriving DecidableEq, Repr

namespace Switch

/-- The name after two dashes. -/
def long : Switch → String
  | config => "config"
  | verbose => "verbose"
  | format => "format"
  | index => "index"
  | tag => "tag"
  | version => "version"
  | help => "help"

/-- The letter after one dash. -/
def short? : Switch → Option Char
  | config => some 'c'
  | verbose => some 'v'
  | format => some 'f'
  | index => some 'i'
  | tag => none
  | version => some 'V'
  | help => some 'h'

/-- The option has a value. -/
def takesValue : Switch → Bool
  | config | format | index => true
  | verbose | tag | version | help => false

end Switch

namespace Level

/-- The options of a level. -/
def switches : Level → List Switch
  | root => [.config, .verbose, .format, .version, .help]
  | compile => [.config, .index, .help]
  | escape => [.config, .tag, .help]
  | config | configShow | configInit | configPath => [.config, .help]

/-- The level that a subcommand leads to. -/
def enter? : Level → String → Option Level
  | root, "compile" => some compile
  | root, "escape" => some escape
  | root, "config" => some config
  | config, "show" => some configShow
  | config, "init" => some configInit
  | config, "path" => some configPath
  | _, _ => none

/-- Subcommands follow at this level. -/
def hasSubcommands : Level → Bool
  | root | config => true
  | _ => false

/-- A plain argument is taken at this level. -/
def takesOperand : Level → Bool
  | compile | escape => true
  | _ => false

end Level

/-! ## Topics of help -/

/-- The word that asks for help in the place of a subcommand. -/
def helpWord : String := "help"

/-- What help is asked about. -/
inductive Topic where
  /-- A subcommand, or the program. -/
  | level (level : Level)
  /-- Help itself, about which nothing further can be named. -/
  | help
deriving DecidableEq, Repr

namespace Topic

/-- The topic that a name leads to. -/
def enter? : Topic → String → Option Topic
  | level l, name =>
    match l.enter? name with
    | some next => some (level next)
    | none => if l.hasSubcommands && name == helpWord then some help else none
  | help, _ => none

end Topic

/-! ## Reading -/

/-- What has been read. -/
structure Progress where
  level : Level := .root
  /-- The options given at this level. -/
  given : List Switch := []
  /-- The option whose value comes next. -/
  pending : Option Switch := none
  /-- Every further argument is a plain one. -/
  plain : Bool := false
  config : Option String := none
  format : OutputFormat := .text
  index : String := "idx"
  tag : Bool := false
  operand : Option String := none
  /-- What help is asked about. Every further argument names a part of it. -/
  topic : Option Topic := none

/-- How reading goes on, or what it came to. -/
abbrev Step : Type := Except Parsed Progress

namespace Progress

/-- The progress after the value of an option. A path is not empty. -/
def setValue (p : Progress) (switch : Switch) (value : String) : Step :=
  if p.given.contains switch then .error .misuse
  else
    let p := { p with given := switch :: p.given, pending := none }
    match switch with
    | .config => if value.isEmpty then .error .misuse else .ok { p with config := some value }
    | .format =>
      if value == "text" then .ok { p with format := .text }
      else if value == "json" then .ok { p with format := .json }
      else .error .misuse
    | .index => .ok { p with index := value }
    | _ => .error .misuse

/-- The progress after an option without a value. -/
def setFlag (p : Progress) (switch : Switch) : Step :=
  if p.given.contains switch then .error .misuse
  else
    let p := { p with given := switch :: p.given }
    match switch with
    | .version => .error .version
    | .help => .error .help
    | .tag => .ok { p with tag := true }
    | _ => .ok p

/-- The progress after an option that is written out. -/
def readLong (p : Progress) (cs : List Char) : Step :=
  let name := String.ofList (cs.takeWhile (· != '='))
  match p.level.switches.find? fun switch => switch.long == name with
  | none => .error .misuse
  | some switch =>
    match cs.dropWhile (· != '='), switch.takesValue with
    | _ :: value, true => p.setValue switch (String.ofList value)
    | [], true => .ok { p with pending := some switch }
    | [], false => p.setFlag switch
    | _ :: _, false => .error .misuse

/-- The progress after options written as letters, of which the last may
have its value joined to it. -/
def readShort (p : Progress) : List Char → Step
  | [] => .ok p
  | c :: cs =>
    match p.level.switches.find? fun switch => switch.short? == some c with
    | none => .error .misuse
    | some switch =>
      if switch.takesValue then
        match cs with
        | [] => .ok { p with pending := some switch }
        | '=' :: value => p.setValue switch (String.ofList value)
        | value => p.setValue switch (String.ofList value)
      else do readShort (← p.setFlag switch) cs

/-- The progress after a plain argument: a file is not empty. -/
def readOperand (p : Progress) (arg : String) : Step :=
  if p.level.takesOperand && p.operand.isNone && !(p.level == .compile && arg.isEmpty) then
    .ok { p with operand := some arg }
  else .error .misuse

/-- The progress after an argument that is not an option. -/
def readPlain (p : Progress) (arg : String) : Step :=
  match p.pending with
  | some switch => p.setValue switch arg
  | none =>
    if p.level.hasSubcommands then
      match p.level.enter? arg with
      | some level => .ok { p with level, given := [] }
      | none =>
        if arg == helpWord then .ok { p with topic := some (.level p.level) } else .error .misuse
    else p.readOperand arg

/-- The progress after an argument that may be an option. -/
def readArgument (p : Progress) (arg : String) : Step :=
  match arg.toList with
  | ['-', '-'] => if p.pending.isSome then .error .misuse else .ok { p with plain := true }
  | '-' :: '-' :: cs => if p.pending.isSome then .error .misuse else p.readLong cs
  | '-' :: c :: cs => if p.pending.isSome then .error .misuse else p.readShort (c :: cs)
  | _ => p.readPlain arg

/-- The progress after one more name of a topic. -/
def readTopic (p : Progress) (topic : Topic) (name : String) : Step :=
  match topic.enter? name with
  | some next => .ok { p with topic := some next }
  | none => .error .misuse

/-- The progress after one more argument. -/
def read (p : Progress) (arg : String) : Step :=
  match p.topic with
  | some topic => p.readTopic topic arg
  | none => if p.plain then p.readOperand arg else p.readArgument arg

/-- The task of arguments that have ended. -/
def task? (p : Progress) : Option Task :=
  match p.level with
  | .root | .config => none
  | .compile => p.operand.map (Task.compile · p.index)
  | .escape => p.operand.map (Task.escape · p.tag)
  | .configShow => some .configShow
  | .configInit => some .configInit
  | .configPath => some .configPath

/-- What arguments that have ended come to. -/
def finish (p : Progress) : Parsed :=
  match p.topic, p.pending, p.task? with
  | some _, _, _ => .help
  | none, none, some task => .request ⟨p.config, p.format, task⟩
  | none, _, _ => .misuse

end Progress

/-- What the arguments come to. -/
def parse (args : List String) : Parsed :=
  match args.foldlM Progress.read {} with
  | .ok p => p.finish
  | .error parsed => parsed

end SearchQuery.CommandLine
