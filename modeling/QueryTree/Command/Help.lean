import QueryTree.Command.Catalog

/-!
# Help

The help of a command is its description and its usage: how it is called, an example, the commands
below it and its flags.
-/

namespace QueryTree

/-- A text with blanks after it, up to a width. -/
def padded (width : Nat) (text : String) : String :=
  text ++ String.ofList (List.replicate (width - text.length) ' ')

namespace Flag

def valueWord (flag : Flag) : String :=
  match flag.kind with
  | .text => " string"
  | .toggle => ""
  | .integer => " int"
  | .list => " strings"

def column (flag : Flag) : String :=
  (if flag.letter.isSome then "  " else "      ") ++ flag.title ++ flag.valueWord

/-- The remark on the value if a flag is not given, unless it is empty, off, zero or without
fields. -/
def defaultRemark (flag : Flag) : String :=
  if ["", "false", "0", "[]"].contains flag.default then ""
  else if flag.kind = .text then " (default " ++ Text.quoted flag.default ++ ")"
  else " (default " ++ flag.default ++ ")"

/-- The lines for some flags in the order of their names. -/
def table (flags : List Flag) : String :=
  let sorted := flags.mergeSort fun first second => first.name ≤ second.name
  let width := (sorted.map (·.column.length)).foldl max 0
  "\n".intercalate (sorted.map fun flag =>
    padded (width + 3) flag.column ++ flag.usage ++ flag.defaultRemark)

end Flag

namespace Command

def callText (command : Command) : String :=
  command.path ++ command.wordsUsage ++ " [flags]"

/-- A part of a usage, left out if it has no content. -/
def usagePart (title content : String) : String :=
  if content = "" then "" else "\n\n" ++ title ++ ":\n" ++ content

/-- The line for a command in the list of those below another one. -/
def listing (command : Command) : String :=
  "  " ++ padded 11 command.name ++ " " ++ command.summary

def usageWith (command : Command) (own : List Flag) : String :=
  let below := !command.children.isEmpty
  "Usage:" ++ (if command.isRunnable then "\n  " ++ command.callText else "") ++
    (if below then "\n  " ++ command.path ++ " [command]" else "") ++
    usagePart "Examples" (command.example?.getD "") ++
    usagePart "Available Commands" ("\n".intercalate (command.children.map listing)) ++
    usagePart "Flags" (Flag.table own) ++
    usagePart "Global Flags" (Flag.table command.sharedFlags) ++
    (if below then
      "\n\nUse \"" ++ command.path ++ " [command] --help\" for more information about a command."
    else "") ++ "\n"

def usage (command : Command) : String := command.usageWith command.ownFlags

def helpText (command : Command) : String :=
  command.description ++ "\n\n" ++ command.usageWith (command.helpFlag :: command.ownFlags)

end Command

end QueryTree
