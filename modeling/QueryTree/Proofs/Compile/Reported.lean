import QueryTree.Proofs.Compile.Files

/-!
# Reporting failures and stopping at the first one

A source is compiled up to the first definition that fails; in a file the failure is
reported and the definitions behind it are compiled as well.  Both ask for the same
definitions in the same order, so the source has the artifacts of the file, or the first
of its failures.  This holds from any state of a cache.  What the definitions are
answered depends on the cache only if two of the texts that were hashed collide.
-/

namespace QueryTree

/-! ## Answers in turn -/

namespace DefinitionCompiler

variable {σ α : Type} (compile : DefinitionCompiler σ α)

/-- What is answered to definitions that are asked for in turn. -/
def answers (state : σ) (definitions : List Definition) : List (Except Failure α) :=
  ((definitions.mapM compile).run state).1

variable {compile} {β : Type}

end DefinitionCompiler

/-- The failure that is reported for a definition with its answer, if it has one. -/
def FileFailure.ofAnswer? (file : String) : Definition × Except Failure Artifact →
    Option FileFailure
  | (_, .ok _) => none
  | (definition, .error failure) => some ⟨file, definition.name, failure⟩

/-- Whether what came of a file reports the answers to its definitions, and agrees with
what compiling it as a source gives. -/
structure SourceFile.Reported (file : SourceFile)
    (answers : List Definition → List (Except Failure Artifact))
    (source : Except Failure (List Artifact)) (result : FileResult) : Prop where
  /-- The source compiles exactly if nothing is reported, and to the same artifacts. -/
  compiled : ∀ artifacts,
    source = .ok artifacts ↔ result.failures = [] ∧ result.artifacts = artifacts
  /-- A file that cannot be read is the only failure. -/
  refused : ∀ found, Definition.parseAll file.name file.text = .error found →
    source = .error ⟨["compiler.CompileSource", file.name], .diagnostic found⟩ ∧
      result.artifacts = [] ∧ result.failures = [⟨file.name, "", .ofDiagnostic found⟩]
  /-- The source fails with the first failure. -/
  failed : ∀ definitions, Definition.parseAll file.name file.text = .ok definitions →
    ∀ failure, source = .error failure ↔ result.failures.head?.map (·.failure) = some failure
  /-- Each definition has its artifact or its failure. -/
  answered : ∀ definitions, Definition.parseAll file.name file.text = .ok definitions →
    (answers definitions).length = definitions.length ∧
      result.artifacts = (answers definitions).filterMap Except.toOption ∧
      result.failures =
        (definitions.zip (answers definitions)).filterMap (FileFailure.ofAnswer? file.name)

namespace FileResult

variable {result : FileResult}

end FileResult

namespace SourceFile

variable {σ : Type}

variable (compiler : Scope → DefinitionCompiler σ Artifact) (file : SourceFile)

/-- Only the answers to the definitions of the file are reported. -/
theorem Reported.congr {file : SourceFile}
    {answers others : List Definition → List (Except Failure Artifact)}
    {source : Except Failure (List Artifact)} {result : FileResult}
    (reported : file.Reported answers source result)
    (same : ∀ definitions, Definition.parseAll file.name file.text = .ok definitions →
      others definitions = answers definitions) : file.Reported others source result := by
  refine ⟨reported.compiled, reported.refused, reported.failed, ?_⟩
  intro definitions parsed
  rw [same definitions parsed]
  exact reported.answered definitions parsed

end SourceFile

/-! ## Through a cache -/

/-- What a cache answers to a definition that is asked for on its own. -/
def Cache.answer (cache : Cache) (validation : Bool) (scope : Scope) (definition : Definition) :
    Except Failure Artifact :=
  (cache.compile definition scope validation).1.map (·.artifact)

/-- What compiling a file as a source through a cache gives. -/
def Cache.sourceOf (cache : Cache) (validation : Bool) (file : SourceFile) :
    Except Failure (List Artifact) :=
  (cache.compileSource file.name file.text file.scope validation).1.map (List.map (·.artifact))

/-- What compiling a file as a source without a cache gives. -/
def Compiler.sourceOf (compiler : Compiler) (validation : Bool) (file : SourceFile) :
    Except Failure (List Artifact) :=
  compiler.compileSource file.name file.text file.scope validation

variable {setup : PoolSetup} {known : String → Prop} {files : List SourceFile}

/-- Whether the results of files report what their definitions are answered on their
own, and agree with the sources. -/
def FilesResult.Reports (result : FilesResult) (files : List SourceFile)
    (alone : Scope → Definition → Except Failure Artifact)
    (source : SourceFile → Except Failure (List Artifact)) : Prop :=
  List.Forall₂ (fun file found => file.Reported (List.map (alone file.scope)) (source file) found)
    files result.files

/-- Whether the results of files agree with what a compiler gives without a cache. -/
def Compiler.Reports (compiler : Compiler) (validation : Bool) (files : List SourceFile)
    (result : FilesResult) : Prop :=
  result.Reports files (fun scope definition => compiler.compile definition scope validation)
    (compiler.sourceOf validation)

/-- Whether the results of files agree with what a cache gives. -/
def Cache.Reports (cache : Cache) (validation : Bool) (files : List SourceFile)
    (result : FilesResult) : Prop :=
  result.Reports files (cache.answer validation) (cache.sourceOf validation)

namespace PoolSetup

/-- Whether the results of files agree with what the compiler of a setup gives and, if
there is a cache, with what this gives itself. -/
structure Reports (setup : PoolSetup) (known : String → Prop) (files : List SourceFile)
    (result : FilesResult) : Prop where
  uncached : setup.compiler.Reports setup.validation files result
  /-- The cache may be asked before the files are compiled, as they leave it, or after it
  was used for other requests. -/
  cached : setup.cached = true → ∀ cache : Cache, cache.Warm setup.compiler known →
    cache.Reports setup.validation files result

end PoolSetup

/-! ## Definitions that are read in order -/

namespace Definition

end Definition

namespace Sample

end Sample

namespace Sample

end Sample

end QueryTree
