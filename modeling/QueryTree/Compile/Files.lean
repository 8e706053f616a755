import QueryTree.Compile.Cache
import QueryTree.Diagnostic.Report

/-!
# Compiling files

Many files are compiled in one run. A definition that fails is reported and skipped, and the rest of
its file is still compiled. Results come in the order of the files.
-/

namespace QueryTree

/-- A file with any number of definitions. -/
structure SourceFile where
  name : String
  text : String
  scope : Scope
  deriving Repr

/-- A definition that does not compile, or a whole file if `definition` is empty. -/
structure FileFailure where
  file : String
  definition : String
  failure : Failure
  deriving Repr

/-- What came of one file. -/
structure FileResult where
  file : String
  artifacts : List Artifact
  failures : List FileFailure
  deriving Repr

/-- What came of all files. -/
structure FilesResult where
  files : List FileResult
  failures : List FileFailure
  report : Report
  /-- How many definitions were compiled. -/
  compiled : Nat
  /-- How many definitions or files failed. -/
  failed : Nat
  deriving Repr

def FilesResult.artifacts (result : FilesResult) : List Artifact :=
  result.files.flatMap (·.artifacts)

namespace SourceFile

variable {σ : Type}

def compileEach (compile : DefinitionCompiler σ Artifact) (file : String) :
    List Definition → StateM σ (List Artifact × List FileFailure)
  | [] => pure ([], [])
  | definition :: definitions => do
    let first ← compile definition
    let (artifacts, failures) ← compileEach compile file definitions
    match first with
    | .ok artifact => pure (artifact :: artifacts, failures)
    | .error failure => pure (artifacts, ⟨file, definition.name, failure⟩ :: failures)

def compile (compiler : Scope → DefinitionCompiler σ Artifact) (file : SourceFile) :
    StateM σ FileResult :=
  match Definition.parseAll file.name file.text with
  | .error found => pure ⟨file.name, [], [⟨file.name, "", .ofDiagnostic found⟩]⟩
  | .ok definitions => do
    let (artifacts, failures) ← compileEach (compiler file.scope) file.name definitions
    pure ⟨file.name, artifacts, failures⟩

def gather (files : List FileResult) : FilesResult :=
  let failures := files.flatMap (·.failures)
  { files
    failures
    report := failures.foldl (fun report failure => report.add failure.failure) .empty
    compiled := (files.flatMap (·.artifacts)).length
    failed := failures.length }

def compileAll (compiler : Scope → DefinitionCompiler σ Artifact) (files : List SourceFile) :
    StateM σ FilesResult :=
  return gather (← files.mapM (compile compiler))

/-- Compile files unless the run was cancelled; without files there is nothing to cancel. -/
def compileUnless (cancelled : Bool) (compiler : Scope → DefinitionCompiler σ Artifact)
    (files : List SourceFile) : StateM σ (Except Failure FilesResult) :=
  if cancelled && !files.isEmpty then pure (.error ⟨[], .canceled⟩)
  else return .ok (← compileAll compiler files)

end SourceFile

def Cache.forFiles (validation : Bool) (scope : Scope) : DefinitionCompiler Cache Artifact :=
  fun definition cache =>
    let (result, cache) := cache.compile definition scope validation
    (result.map (·.artifact), cache)

def Compiler.forFiles (compiler : Compiler) (validation : Bool) (scope : Scope) :
    DefinitionCompiler Unit Artifact :=
  compiler.definitions scope validation

end QueryTree
