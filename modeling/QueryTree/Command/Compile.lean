import QueryTree.Artifact.Embedding
import QueryTree.Command.Files
import QueryTree.Compile.Files

/-!
# The compile command

All definitions of the given files are compiled against a schema. What fails is reported and
skipped; the artifacts of the others are written in one of three formats. The command fails if any
definition did.
-/

namespace QueryTree

/-- The formats of artifacts. -/
inductive OutputFormat where
  | json
  | yaml
  /-- A source file that embeds the artifacts. -/
  | source
  deriving DecidableEq, Repr

def OutputFormat.ofText? (name : String) : Option OutputFormat :=
  if name = "json" then some .json
  else if name = "yaml" then some .yaml
  else if name = "go" then some .source
  else none

/-- What the compile command is asked to do. -/
structure CompileRequest where
  schemaFile : String
  format : String
  package : String
  scope : List String
  validation : Bool
  deriving Repr

namespace CompileRequest

/-- Write artifacts as YAML documents, up to the first one that cannot be written. -/
def writeDocuments : List Artifact → String × Option Failure
  | [] => ("", none)
  | artifact :: artifacts =>
    match artifact.yaml with
    | .error failure => ("", some failure)
    | .ok text =>
      let (others, failure) := writeDocuments artifacts
      ("---\n" ++ text ++ others, failure)

/-- A text, or the failure to make it. -/
def textOrFailure : Except Failure String → String × Option Failure
  | .ok text => (text, none)
  | .error failure => ("", some failure)

def writeArtifacts (format : OutputFormat) (package : String) (artifacts : List Artifact) :
    String × Option Failure :=
  match format with
  | .yaml => writeDocuments artifacts
  | .source => textOrFailure (Embedding.file package artifacts)
  | .json => textOrFailure ((Artifact.indentedAll artifacts).map (· ++ "\n"))

def failureLine (failure : FileFailure) : String :=
  let place := if failure.definition = "" then failure.file
    else failure.file ++ ": " ++ failure.definition
  place ++ ": " ++ failure.failure.text ++ "\n"

/-- The failure of a run in which definitions failed. -/
def countFailure (result : FilesResult) : Option Failure :=
  if result.failed = 0 then none
  else some (.ofMessage ("compile: " ++ toString result.failed ++ " of " ++
    toString (result.failed + result.compiled) ++ " definitions failed"))

def readSources (files : FileTable) (scope : Scope) (paths : List String) :
    Except Failure (List SourceFile) :=
  paths.mapM fun path => return ⟨path, ← files.read path, scope⟩

/-- All that has to succeed before anything is compiled. -/
def prepare (request : CompileRequest) (config : Config) (files : FileTable)
    (paths : List String) : Except Failure (OutputFormat × Compiler × List SourceFile) :=
  match OutputFormat.ofText? request.format with
  | none =>
    .error (.ofMessage ("compile: unknown format " ++ Text.quoted request.format ++
      ", use one of json, yaml or go"))
  | some format => do
    let scope ← (Scope.parse request.scope).mapError .ofMessage
    let schema ← files.read request.schemaFile
    let compiler ← Compiler.ofSource config request.schemaFile schema
    let sources ← readSources files scope paths
    return (format, compiler, sources)

def run (request : CompileRequest) (config : Config) (files : FileTable) (paths : List String) :
    Outcome :=
  match request.prepare config files paths with
  | .error failure => .failed failure
  | .ok (format, compiler, sources) =>
    let result :=
      ((SourceFile.compileAll (Cache.forFiles request.validation) sources).run (.make compiler)).1
    let err := String.join (result.failures.map failureLine)
    let (out, failure) := writeArtifacts format request.package result.artifacts
    ⟨out, err, failure.or (countFailure result)⟩

end CompileRequest

end QueryTree
