import QueryTree.Command.Line

/-!
# The program

The program reads the files that its arguments may name and the environment, runs the command line
on them, and writes what came of it.
-/

namespace QueryTree.Program

/-- The paths that an argument may name: all of it, or the value of a flag within it. -/
def pathsIn (argument : String) : List String :=
  let chars := argument.toList
  [argument, String.ofList (chars.drop 2), String.ofList ((chars.dropWhile (· ≠ '=')).drop 1)]

/-- The paths that a command line may name. -/
def paths (arguments : List String) (environment : List (String × String)) : List String :=
  (arguments.flatMap pathsIn ++ [Flag.schema.default] ++ CommandLine.homePaths environment).filter
    (· ≠ "")

/-- The environment variables that settings come from. -/
def variableNames : List String :=
  "HOME" :: [Setting.inputArgument, .snakeCase, .cacheSize, .concurrency].map
    Setting.environmentName

def readEnvironment : IO (List (String × String)) := do
  let values ← variableNames.mapM fun name => do return (name, ← IO.getEnv name)
  return values.filterMap fun (name, value?) => value?.map (name, ·)

/-- Read a file, if there is one. -/
def readFile? (path : String) : IO (Option String) := do
  try
    return some (← IO.FS.readFile path)
  catch _ => return none

/-- Read the files that a command line may name. -/
def readFiles (paths : List String) : IO FileTable := do
  let contents ← paths.mapM fun path => do return (path, ← readFile? path)
  let table := FileTable.ofList (contents.filterMap fun (path, content?) => content?.map (path, ·))
  return { table with directories := paths.map FileTable.parent }

end QueryTree.Program

open QueryTree in
/-- Run the program. It ends with one if the command failed. -/
def main (arguments : List String) : IO UInt32 := do
  let environment ← Program.readEnvironment
  let files ← Program.readFiles (Program.paths arguments environment)
  let result := CommandLine.run ⟨arguments, files, environment⟩
  IO.print result.outcome.out
  IO.eprint (result.outcome.err ++ result.notice)
  if let some (path, content) := result.made then
    IO.FS.writeFile path content
  return if result.outcome.failure.isSome then 1 else 0
