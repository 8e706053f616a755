import QueryTree.Command.Compile
import QueryTree.Command.Format
import QueryTree.Command.Help
import QueryTree.Setting.Config
import QueryTree.Setting.Json
import QueryTree.Setting.Yaml
import QueryTree.Text.Distance
import QueryTree.Text.LowerCase

/-!
# The command line

The words of a command line select a command, the flags are read as those of the command, and then
the command runs on the files and the environment that it is given. What it wrote, the notice about
a failure and the file it made are the result; nothing else happens.
-/

namespace QueryTree

/-- A command line with all that it can see. -/
structure CommandLine where
  arguments : List String
  files : FileTable
  environment : List (String × String)
  deriving Repr

/-- The result of a command line. -/
structure CommandResult where
  outcome : Outcome
  /-- What is said about a failure. -/
  notice : String
  /-- The file that was made, and its content. -/
  made : Option (String × String)
  deriving Repr

namespace CommandResult

/-- A command that failed, with the notice of the failure. -/
def ofOutcome (outcome : Outcome) (made : Option (String × String)) : CommandResult :=
  let notice := match outcome.failure with
    | some failure => "Error: " ++ failure.text ++ "\n"
    | none => ""
  ⟨outcome, notice, made⟩

def filesAfter (result : CommandResult) (files : FileTable) : FileTable :=
  match result.made with
  | some (path, content) => files.write path content
  | none => files

end CommandResult

/-! ## Selecting a command -/

/-- An unknown command. -/
structure UnknownCommand where
  word : String
  suggestions : List Command
  deriving DecidableEq, Repr

namespace UnknownCommand

/-- Whether a command is suggested for a word: it is close to the word or begins with it, upper and
lower case being the same. -/
def isSuggested (word : String) (command : Command) : Bool :=
  let word := Text.lowerText word
  Text.distance word command.name ≤ 2 || command.name.startsWith word

def ofWord (word : String) : UnknownCommand :=
  ⟨word, Command.main.suggested.filter (isSuggested word)⟩

def message (unknown : UnknownCommand) : String :=
  let suggestions :=
    if unknown.suggestions.isEmpty then ""
    else
      "\n\nDid you mean this?\n" ++
        String.join (unknown.suggestions.map fun command => "\t" ++ command.name ++ "\n")
  "unknown command " ++ Text.quoted unknown.word ++ " for " ++ Text.quoted Command.main.path ++
    suggestions

end UnknownCommand

namespace Command

def height : Nat := 2

/-- Follow the words of arguments down from a command, at most so many times. The words that were
followed are taken out of the arguments. -/
def descend : Nat → Command → List String → Command × List String
  | 0, command, arguments => (command, arguments)
  | levels + 1, command, arguments =>
    match Flag.wordsAmong command.flags arguments with
    | [] => (command, arguments)
    | word :: _ =>
      match command.children.find? (·.name = word) with
      | some child => descend levels child (arguments.erase word)
      | none => (command, arguments)

/-- The command of a command line, and its arguments. -/
def select (arguments : List String) : Except UnknownCommand (Command × List String) :=
  match descend height .main arguments with
  | (.main, rest) =>
    match Flag.wordsAmong Command.main.flags rest with
    | [] => .ok (.main, rest)
    | word :: _ => .error (.ofWord word)
  | found => .ok found

end Command

/-! ## The settings file -/

namespace CommandLine

/-- The part of a path after the last point of its last name. -/
def ending (path : String) : String :=
  let name := ((path.splitOn "/").getLastD "").toList
  if name.contains '.' then String.ofList (name.reverse.takeWhile (· ≠ '.')).reverse else ""

/-- The entries of a settings file, in a format that its ending tells. -/
def entriesOf? (path content : String) : Option (List (String × SettingValue)) := do
  let value ←
    if ending path = "json" then SettingValue.ofJson? content
    else if ending path = "yaml" || ending path = "yml" then SettingValue.ofYaml? content
    else none
  value.settings?

/-- The paths at which a settings file is looked for if none is given. -/
def homePaths (environment : List (String × String)) : List String :=
  match environment.lookup "HOME" with
  | some home =>
    if home = "" then [] else ["json", "yaml", "yml"].map fun kind => home ++ "/.cqir." ++ kind
  | none => []

def settingsPath? (line : CommandLine) (arguments : Arguments) : Option String :=
  let given := arguments.value Flag.config
  if given ≠ "" then some given
  else (homePaths line.environment).find? fun path => (line.files.read path).toOption.isSome

/-- The settings file and its entries. One that cannot be read counts as none. -/
def settingsFile? (line : CommandLine) (arguments : Arguments) :
    Option (String × List (String × SettingValue)) := do
  let path ← line.settingsPath? arguments
  let content ← (line.files.read path).toOption
  return (path, ← entriesOf? path content)

def flagSettings (arguments : Arguments) : List (Setting × SettingValue) :=
  let setting (flag : Flag) (setting : Setting) (read : String → SettingValue) :
      Option (Setting × SettingValue) :=
    (arguments.value? flag.name).map fun value => (setting, read value)
  [setting Flag.inputArgument .inputArgument .string,
    setting Flag.snakeCase .snakeCase fun value => .truth ((Text.readBool? value).getD false),
    setting Flag.concurrency .concurrency fun value =>
      .whole ((Text.readInteger value).toOption.getD 0)].filterMap id

def sources (line : CommandLine) (arguments : Arguments) : SettingSources :=
  ⟨flagSettings arguments, line.environment, ((line.settingsFile? arguments).map (·.2)).getD []⟩

/-- What is told about the settings file if more is to be told. -/
def settingsNote (line : CommandLine) (arguments : Arguments) : String :=
  match arguments.isOn Flag.verbose.name, line.settingsFile? arguments with
  | true, some (path, _) => "Using config file: " ++ path ++ "\n"
  | _, _ => ""

/-! ## Running a command -/

def compileRequest (arguments : Arguments) : CompileRequest :=
  { schemaFile := arguments.value Flag.schema
    format := arguments.value Flag.format
    package := arguments.value Flag.package
    scope := arguments.fields Flag.scope.name
    validation := !arguments.isOn Flag.noValidate.name }

def requireWord (words : List String) : Except Failure Unit :=
  if words.isEmpty then .error (.ofMessage "requires at least 1 arg(s), only received 0")
  else .ok ()

/-- Run the compile command. The file for the output is made before anything is compiled. -/
def runCompile (line : CommandLine) (arguments : Arguments) : CommandResult :=
  let path := arguments.value Flag.out
  let prepared : Except Failure Config := do
    requireWord arguments.words
    let config ← (line.sources arguments).config
    if path ≠ "" then line.files.checkWritable path
    return config
  match prepared with
  | .error failure => .ofOutcome (.failed failure) none
  | .ok config =>
    let files := if path = "" then line.files else line.files.write path ""
    let outcome := (compileRequest arguments).run config files arguments.words
    if path = "" then .ofOutcome outcome none
    else .ofOutcome { outcome with out := "" } (some (path, outcome.out))

def runFormat (line : CommandLine) (arguments : Arguments) : CommandResult :=
  match requireWord arguments.words with
  | .error failure => .ofOutcome (.failed failure) none
  | .ok () => .ofOutcome (FormatCommand.definitions line.files arguments.words) none

def runFormatSchema (line : CommandLine) (arguments : Arguments) : CommandResult :=
  match arguments.words with
  | [path] => .ofOutcome (FormatCommand.schema line.files path) none
  | _ => .ofOutcome (.failed (.ofMessage "schema: must provide 1 arg (fileName)")) none

def runHelp (arguments : Arguments) : CommandResult :=
  match Command.select arguments.words with
  | .ok (command, _) => .ofOutcome (.wrote command.helpText) none
  | .error _ =>
    let topics := " ".intercalate (arguments.words.map Text.quotedRaw)
    ⟨.wrote "", "Unknown help topic [" ++ topics ++ "]\n" ++ Command.main.usage, none⟩

def runCommand (line : CommandLine) (arguments : Arguments) : Command → CommandResult
  | .main => .ofOutcome (.wrote Command.main.helpText) none
  | .compile => line.runCompile arguments
  | .format => line.runFormat arguments
  | .formatSchema => line.runFormatSchema arguments
  | .help => runHelp arguments

/-- Put a note before what a command wrote to the standard error output. -/
def addNote (note : String) (result : CommandResult) : CommandResult :=
  { result with outcome := { result.outcome with err := note ++ result.outcome.err } }

/-- Run a command with its arguments, or show its help. -/
def runSelected (line : CommandLine) (command : Command) (arguments : List String) :
    CommandResult :=
  match Arguments.read command.allFlags arguments with
  | .error fault => .ofOutcome (.failed (.ofMessage fault.message)) none
  | .ok arguments =>
    if arguments.isOn command.helpFlag.name || !command.isRunnable then
      .ofOutcome (.wrote command.helpText) none
    else addNote (line.settingsNote arguments) (line.runCommand arguments command)

def run (line : CommandLine) : CommandResult :=
  match Command.select line.arguments with
  | .ok (command, arguments) => line.runSelected command arguments
  | .error unknown =>
    let result := CommandResult.ofOutcome (.failed (.ofMessage unknown.message)) none
    { result with
      notice := result.notice ++ "Run '" ++ Command.main.path ++ " --help' for usage.\n" }

end CommandLine

end QueryTree
