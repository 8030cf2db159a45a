import SearchQuery.CommandLine.Run

/-!
# The program

Reads the files that a request may name, runs it, and prints.
-/

open SearchQuery.CommandLine

/-- What stands at a path. -/
def readFile (path : String) : IO File := do
  try
    return .text (← IO.FS.readFile path)
  catch
    | .noFileOrDirectory .. => return .absent
    | _ => return .unreadable

/-- The path of the configuration file. -/
def configPath? : IO (Option String) := do
  if let some dir ← IO.getEnv "FTQUERY_CONFIG_DIR" then
    return some (dir ++ "/config.toml")
  if let some dir ← IO.getEnv "XDG_CONFIG_HOME" then
    return some (dir ++ "/ftquery/config.toml")
  if let some home ← IO.getEnv "HOME" then
    return some (home ++ "/.config/ftquery/config.toml")
  return none

/-- The paths that the arguments may name. -/
def namedPaths (args : List String) : List String :=
  match parse args with
  | .request request =>
    request.config.toList ++
      match request.task with
      | .compile file _ => [file]
      | _ => []
  | _ => []

/-- Runs the program on its arguments. -/
def main (args : List String) : IO UInt32 := do
  let configPath ← configPath?
  let paths := configPath.toList ++ namedPaths args
  let files ← paths.mapM fun path => do return (path, ← readFile path)
  let outcome := run ⟨fun path => (files.lookup path).getD .absent, configPath⟩ args
  IO.print outcome.output
  if let some report := outcome.report then
    IO.eprintln report
  return outcome.exitCode.toUInt32
