import QueryTree.Build.Root
import QueryTree.Command.Flag

/-!
# The commands

The commands form a tree. Every command has a line of usage, a description, flags of its own and the
flags that all commands share.
-/

namespace QueryTree

/-- The commands. -/
inductive Command where
  /-- The program itself, which does nothing but show its help. -/
  | main
  /-- Compile definitions into artifacts. -/
  | compile
  /-- Write definitions in their canonical form. -/
  | format
  | formatSchema
  | help
  deriving DecidableEq, Repr

/-! ## Flags -/

namespace Flag

def config : Flag :=
  ⟨"config", none, .text, "", "config file (default is $HOME/.cqir.yaml)"⟩

/-- Whether more is told about what is done. -/
def verbose : Flag := ⟨"verbose", some 'v', .toggle, "false", "verbose enables debug logging"⟩

/-- The single argument of mutations and subscriptions. -/
def inputArgument : Flag :=
  ⟨"input-argument-name", none, .text, defaultInputArgument,
    "input-argument-name is the only argument of mutation and subscription fields"⟩

/-- Whether the field names of the runtime are in snake case. -/
def snakeCase : Flag :=
  ⟨"snake-case", none, .toggle, "false",
    "snake-case expects the runtime fields of the schema in snake_case, e.g. page_info"⟩

def shared : List Flag := [config, inputArgument, snakeCase, verbose]

/-- How many files are compiled at once. -/
def concurrency : Flag :=
  ⟨"concurrency", none, .integer, "0",
    "concurrency limits the files compiled at once, 0 means unlimited"⟩

def format : Flag :=
  ⟨"format", some 'f', .text, "json", "format of the output, one of json, yaml or go"⟩

/-- Whether definitions are compiled without their structural rules. -/
def noValidate : Flag :=
  ⟨"no-validate", none, .toggle, "false", "no-validate skips the structural validation rules"⟩

/-- The file that the output goes to. -/
def out : Flag :=
  ⟨"out", some 'o', .text, "", "out redirects the output into a file (optional)"⟩

def package : Flag :=
  ⟨"package", some 'p', .text, "generated",
    "package is the package of the generated code, only used with --format go"⟩

def schema : Flag :=
  ⟨"schema", some 's', .text, "./schema.graphql",
    "schema is the schema file the definitions are compiled against"⟩

def scope : Flag :=
  ⟨"scope", none, .list, "[]",
    "scope lists the bindings fragment spreads resolve against, e.g. Profile=imported,user=local"⟩

end Flag

namespace Command

def name : Command → String
  | .main => "cqir"
  | .compile => "compile"
  | .format => "fmt"
  | .formatSchema => "schema"
  | .help => "help"

/-- The names of a command and of those above it. -/
def path : Command → String
  | .main => "cqir"
  | .compile => "cqir compile"
  | .format => "cqir fmt"
  | .formatSchema => "cqir fmt schema"
  | .help => "cqir help"

/-- The words that a command takes, as its usage shows them. -/
def wordsUsage : Command → String
  | .main => ""
  | .compile => " [files]"
  | .format => " [files]"
  | .formatSchema => ""
  | .help => " [command]"

/-- What a command does, in one line. -/
def summary : Command → String
  | .main => "cqir compiles GraphQL definitions into their runtime query representation"
  | .compile => "compile compiles all definitions of the given files into artifacts"
  | .format => "fmt prints the definitions of the given files in their canonical form"
  | .formatSchema => "schema formats a graphql schema file to std out"
  | .help => "Help about any command"

/-- What a command does, at length. -/
def description : Command → String
  | .main =>
    "cqir compiles queries, mutations, subscriptions and fragments written for a relay style " ++
    "client\ninto CQIR trees. Fragment spreads become substitution slots that are filled at " ++
    "run time from the\nmodules the definitions are embedded in."
  | .compile =>
    "compile parses every file, compiles each definition against the schema and prints the " ++
    "artifacts.\nDefinitions that fail are reported on stderr and skipped, the command exits " ++
    "with an error if any failed.\n\nFragment spreads resolve against the bindings passed " ++
    "with --scope.\nA binding is name=imported or name=local, a bare name is imported."
  | .format =>
    "fmt prints every definition the way the compiler sees it, this text is also what " ++
    "compilations are cached by."
  | .formatSchema => summary .formatSchema
  | .help =>
    "Help provides help for any command in the application.\n" ++
    "Simply type cqir help [path to command] for full details."

def example? : Command → Option String
  | .compile =>
    some ("cqir compile --schema schema.graphql --scope Profile=imported,user=local " ++
      "--format go --package generated profile.graphql")
  | .format => some "cqir fmt profile.graphql"
  | .formatSchema =>
    some "cqir fmt schema starwars.schema.graphql > formatted.graphql"
  | _ => none

/-- The commands below a command, in the order of their names. -/
def children : Command → List Command
  | .main => [.compile, .format, .help]
  | .format => [.formatSchema]
  | _ => []

/-- The commands below a command that are suggested for misspelt ones. -/
def suggested (command : Command) : List Command :=
  command.children.filter (· ≠ .help)

/-- Whether a command does something of its own. -/
def isRunnable (command : Command) : Bool := command ≠ .main

def helpFlag (command : Command) : Flag :=
  ⟨"help", some 'h', .toggle, "false", "help for " ++ command.name⟩

/-- The flags of a command that others do not have, without the one that asks for help. -/
def ownFlags : Command → List Flag
  | .main => Flag.shared
  | .compile =>
    [Flag.concurrency, Flag.format, Flag.noValidate, Flag.out, Flag.package, Flag.schema,
      Flag.scope]
  | _ => []

/-- The flags that a command shares with those above it. -/
def sharedFlags (command : Command) : List Flag :=
  if command = .main then [] else Flag.shared

/-- All flags of a command but the one that asks for help. -/
def flags (command : Command) : List Flag := command.ownFlags ++ command.sharedFlags

def allFlags (command : Command) : List Flag := command.helpFlag :: command.flags

end Command

end QueryTree
