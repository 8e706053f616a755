import QueryTree.Command.Files
import QueryTree.Document.Canonical
import QueryTree.Document.Source
import QueryTree.Schema.Format
import QueryTree.Schema.Load

/-!
# The format command

Definitions are written in their canonical form, one to a line with empty lines between them. A
schema is written with its declarations sorted.
-/

namespace QueryTree.FormatCommand

/-- Definitions in canonical form. Before the first one there is no empty line. -/
def definitionsText (first : Bool) : List Definition → String
  | [] => ""
  | definition :: definitions =>
    (if first then "" else "\n") ++ definition.canonical ++ "\n" ++
      definitionsText false definitions

def readDefinitions (files : FileTable) (path : String) : Except Failure (List Definition) := do
  let text ← files.read path
  (Definition.parseAll path text).mapError fun found => ⟨[path], .diagnostic found⟩

/-- Write the definitions of files, up to the first file that cannot be read. -/
def definitionsFrom (files : FileTable) (first : Bool) : List String → String × Option Failure
  | [] => ("", none)
  | path :: paths =>
    match readDefinitions files path with
    | .error failure => ("", some failure)
    | .ok definitions =>
      let (others, failure) := definitionsFrom files (first && definitions.isEmpty) paths
      (definitionsText first definitions ++ others, failure)

def definitions (files : FileTable) (paths : List String) : Outcome :=
  let (out, failure) := definitionsFrom files true paths
  ⟨out, "", failure⟩

def schema (files : FileTable) (path : String) : Outcome :=
  match files.read path with
  | .error failure => .failed failure
  | .ok text =>
    match Schema.parse .camelCase path text with
    | .ok schema => .wrote schema.format
    | .error error => .failed ⟨[], .schema error⟩

end QueryTree.FormatCommand
