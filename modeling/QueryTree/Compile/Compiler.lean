import QueryTree.Artifact.Basic
import QueryTree.Build.Root
import QueryTree.Document.Source
import QueryTree.Schema.Load

/-!
# Compiling definitions

A compilation normalizes a definition, builds its tree, resolves its slots and assembles the
artifact. It ends at the first problem. A source is compiled definition by definition, with a
compiler that may remember earlier results.
-/

namespace QueryTree

/-- The settings of a compiler. -/
structure Config where
  /-- The single argument of mutation and subscription fields. -/
  inputArgument : String
  /-- Whether the field names of the runtime are in snake case. -/
  snakeCase : Bool
  /-- How many artifacts are remembered. -/
  cacheSize : Int
  /-- How many files are compiled at once, without a limit if it is not positive. -/
  concurrency : Int
  deriving DecidableEq, Repr

namespace Config

/-- The default number of remembered artifacts. -/
def defaultCacheSize : Int := 1024

def default : Config := ⟨defaultInputArgument, false, defaultCacheSize, 0⟩

/-- Settings with defaults in place of what is missing. -/
def withDefaults (config : Config) : Config :=
  { config with
    inputArgument := inputArgumentOr config.inputArgument
    cacheSize := if config.cacheSize ≤ 0 then defaultCacheSize else config.cacheSize }

def names (config : Config) : FieldNames := .ofConvention config.snakeCase

end Config

/-- A schema with the settings to compile against it. -/
structure Compiler where
  schema : Schema
  config : Config
  deriving Repr

namespace Compiler

/-- A compiler, with defaults for missing settings. -/
def make (schema : Schema) (config : Config) : Compiler := ⟨schema, config.withDefaults⟩

def ofSource (config : Config) (source text : String) : Except Failure Compiler :=
  match Schema.parse config.names source text with
  | .ok schema => .ok (make schema config)
  | .error error => .error ⟨["schema.Load"], .schema error⟩

/-- The choices for building the tree of a definition. -/
def buildOptions (compiler : Compiler) (validation : Bool) : BuildOptions :=
  ⟨compiler.config.inputArgument, validation, []⟩

def orFail {α : Type} (result : Except Diagnostic α) : Except Failure α :=
  result.mapError .ofDiagnostic

def compileNormal (compiler : Compiler) (definition : Definition) (form : NormalForm)
    (scope : Scope) (validation : Bool) : Except Failure Artifact := do
  let parameters ← orFail definition.parameters
  let root ← (form.definition.build compiler.schema (compiler.buildOptions validation)).mapError
    BuildError.failure
  let initializers ← orFail (resolveSlots form.slots scope (parameters.getD []))
  orFail (Artifact.assemble definition form root initializers)

def compile (compiler : Compiler) (definition : Definition) (scope : Scope) (validation : Bool) :
    Except Failure Artifact := do
  let form ← orFail definition.normalize
  compiler.compileNormal definition form scope validation

end Compiler

/-- What compiles single definitions with a state of its own. -/
abbrev DefinitionCompiler (σ α : Type) := Definition → StateM σ (Except Failure α)

namespace DefinitionCompiler

variable {σ α : Type}

/-- Compile definitions in their order, up to the first failure. -/
def compileAll (compile : DefinitionCompiler σ α) :
    List Definition → StateM σ (Except Failure (List α))
  | [] => pure (.ok [])
  | definition :: definitions => do
    match ← compile definition with
    | .error failure => pure (.error failure)
    | .ok first =>
      match ← compileAll compile definitions with
      | .error failure => pure (.error failure)
      | .ok others => pure (.ok (first :: others))

/-- Compile the definitions of a source in their order, up to the first failure. -/
def compileSource (compile : DefinitionCompiler σ α) (name text : String) :
    StateM σ (Except Failure (List α)) :=
  match Definition.parseAll name text with
  | .error found =>
    pure (.error ⟨["compiler.CompileSource", name], .diagnostic found⟩)
  | .ok definitions => compileAll compile definitions

end DefinitionCompiler

def Compiler.definitions (compiler : Compiler) (scope : Scope) (validation : Bool) :
    DefinitionCompiler Unit Artifact :=
  fun definition => pure (compiler.compile definition scope validation)

def Compiler.compileSource (compiler : Compiler) (name text : String) (scope : Scope)
    (validation : Bool) : Except Failure (List Artifact) :=
  (((compiler.definitions scope validation).compileSource name text).run ()).1

end QueryTree
