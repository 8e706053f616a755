import QueryTree.Proofs.Compile.Schedule

/-!
# Answers of a kind

What holds of all that a compiler gives for single definitions holds of what comes
of sources and of files: without a cache, through a cache, and by a pool at any time
of its run.  A cache may have been used for other sources before, and their texts may
collide with those of the definitions.
-/

namespace QueryTree

/-- Whether a result is a failure of one kind or a value of another. -/
def EndsIn {ε α : Type} (fails : ε → Prop) (gives : α → Prop) : Except ε α → Prop
  | .error failure => fails failure
  | .ok value => gives value

variable {fails : Failure → Prop}

theorem EndsIn.of_map {α β : Type} {gives : β → Prop} {change : α → β} {result : Except Failure α}
    (ends : EndsIn fails gives (result.map change)) : EndsIn fails (gives <| change ·) result := by
  cases result with
  | ok value | error failure => exact ends

/-! ## Definitions one after another -/

namespace DefinitionCompiler

variable {σ α : Type} {compile : DefinitionCompiler σ α} {holds : σ → Prop} {gives : α → Prop}

/-- Whether a definition is compiled to a result of a kind in every state of a kind,
and the state after it is again of the kind. -/
def Keeps (compile : DefinitionCompiler σ α) (holds : σ → Prop) (fails : Failure → Prop)
    (gives : α → Prop) (definition : Definition) : Prop :=
  ∀ state, holds state →
    EndsIn fails gives (compile definition state).1 ∧ holds (compile definition state).2

theorem compileAll_keeps {definitions : List Definition}
    (each : ∀ definition ∈ definitions, compile.Keeps holds fails gives definition) {state : σ}
    (isState : holds state) :
    EndsIn fails (∀ value ∈ ·, gives value) (compile.compileAll definitions state).1 ∧
      holds (compile.compileAll definitions state).2 := by
  induction definitions generalizing state with
  | nil => exact ⟨List.forall_mem_nil _, isState⟩
  | cons definition definitions ih =>
    obtain ⟨answer, kept⟩ := each definition List.mem_cons_self state isState
    cases compiled : compile definition state with
    | mk result next =>
      rw [compiled] at answer kept
      cases result with
      | error failure =>
        rw [compileAll_cons_error compiled]
        exact ⟨answer, kept⟩
      | ok first =>
        obtain ⟨others, last⟩ := ih (List.forall_mem_cons.mp each).2 kept
        rw [compileAll_cons_ok compiled]
        refine ⟨?_, last⟩
        cases rest : (compile.compileAll definitions next).1 with
        | error failure =>
          rw [rest] at others
          exact others
        | ok values =>
          rw [rest] at others
          exact List.forall_mem_cons.mpr ⟨answer, others⟩

theorem compileSource_keeps {name text : String}
    (refused : ∀ found, Definition.parseAll name text = .error found →
      fails ⟨["compiler.CompileSource", name], .diagnostic found⟩)
    (each : ∀ definitions, Definition.parseAll name text = .ok definitions →
      ∀ definition ∈ definitions, compile.Keeps holds fails gives definition)
    {state : σ} (isState : holds state) :
    EndsIn fails (∀ value ∈ ·, gives value) (compile.compileSource name text state).1 ∧
      holds (compile.compileSource name text state).2 := by
  cases parsed : Definition.parseAll name text with
  | error found =>
    rw [compileSource_of_error parsed]
    exact ⟨refused found parsed, isState⟩
  | ok definitions =>
    rw [compileSource_of_ok parsed]
    exact compileAll_keeps (each definitions parsed) isState

end DefinitionCompiler

/-- Whether all that came of a file is of some kind. -/
structure FileResult.Within (fails : Failure → Prop) (gives : Artifact → Prop)
    (result : FileResult) : Prop where
  artifacts : ∀ artifact ∈ result.artifacts, gives artifact
  failures : ∀ failure ∈ result.failures, fails failure.failure

variable {gives : Artifact → Prop}

theorem SourceFile.compileEach_keeps {σ : Type} {compile : DefinitionCompiler σ Artifact}
    {holds : σ → Prop} (file : String) {definitions : List Definition}
    (each : ∀ definition ∈ definitions, compile.Keeps holds fails gives definition) {state : σ}
    (isState : holds state) :
    let outcome := compileEach compile file definitions state
    FileResult.Within fails gives ⟨file, outcome.1.1, outcome.1.2⟩ ∧ holds outcome.2 := by
  induction definitions generalizing state with
  | nil => exact ⟨⟨List.forall_mem_nil _, List.forall_mem_nil _⟩, isState⟩
  | cons definition definitions ih =>
    obtain ⟨answer, kept⟩ := each definition List.mem_cons_self state isState
    cases compiled : compile definition state with
    | mk result next =>
      rw [compiled] at answer kept
      obtain ⟨others, last⟩ := ih (List.forall_mem_cons.mp each).2 kept
      cases result with
      | error failure =>
        rw [compileEach_cons_error compiled]
        exact ⟨⟨others.artifacts, List.forall_mem_cons.mpr ⟨answer, others.failures⟩⟩, last⟩
      | ok artifact =>
        rw [compileEach_cons_ok compiled]
        exact ⟨⟨List.forall_mem_cons.mpr ⟨answer, others.artifacts⟩, others.failures⟩, last⟩

/-! ## Sources -/

/-- Whether all that a compiler can give for a file is of some kind: the failure to
read it, the results of its definitions, and the artifacts of any other definitions
that a cache may take for them. -/
structure Compiler.Settles (compiler : Compiler) (validation : Bool) (fails : Failure → Prop)
    (gives : Artifact → Prop) (file : SourceFile) : Prop where
  refused : ∀ found, Definition.parseAll file.name file.text = .error found →
    ∀ context, fails ⟨context, .diagnostic found⟩
  own : ∀ definitions, Definition.parseAll file.name file.text = .ok definitions →
    ∀ definition ∈ definitions,
      EndsIn fails gives (compiler.compile definition file.scope validation)
  stored : ∀ definition scope validation artifact, definition.WellFormed →
    compiler.compile definition scope validation = .ok artifact → gives artifact

namespace Compiler.Settles

variable {compiler : Compiler} {validation : Bool} {file : SourceFile}

theorem trivially (compiler : Compiler) (validation : Bool) (file : SourceFile) :
    compiler.Settles validation (fun _ => True) (fun _ => True) file where
  refused _ _ _ := trivial
  own definitions _ definition _ := by
    cases compiler.compile definition file.scope validation <;> exact trivial
  stored _ _ _ _ _ _ := trivial

theorem admits (settles : compiler.Settles validation fails gives file) (known : String → Prop)
    (definition : Definition) (scope : Scope) :
    Cache.Admits compiler known definition scope validation (EndsIn fails gives) := by
  intro form artifact normal request
  apply settles.stored request.definition request.scope request.validation artifact
    request.isRead.wellFormed
  rw [compiler.compile_of_normalize request.normal]
  exact request.compiled

variable {definitions : List Definition}

theorem ready {setup : PoolSetup}
    (settles : setup.compiler.Settles setup.validation fails gives file)
    (parsed : Definition.parseAll file.name file.text = .ok definitions) :
    ∀ definition ∈ definitions,
      definition.Ready setup (fun _ => True) file.scope (EndsIn fails gives) := by
  intro definition member
  exact ⟨Definition.isRead_of_parseAll parsed definition member, fun _ _ => trivial,
    settles.own definitions parsed definition member, fun _ => settles.admits _ definition _⟩

variable (settles : compiler.Settles validation fails gives file)

include settles

theorem keeps_uncached (parsed : Definition.parseAll file.name file.text = .ok definitions) :
    ∀ definition ∈ definitions,
      (compiler.definitions file.scope validation).Keeps (fun _ => True) fails gives definition :=
  fun definition member _ _ => ⟨settles.own definitions parsed definition member, trivial⟩

theorem keeps_cached (parsed : Definition.parseAll file.name file.text = .ok definitions) :
    ∀ definition ∈ definitions,
      (Cache.forFiles validation file.scope).Keeps (Cache.Sound compiler fun _ => True) fails gives
        definition := by
  intro definition member cache sound
  exact sound.compile_admitted (Definition.isRead_of_parseAll parsed definition member)
    (fun _ _ => trivial) (settles.own definitions parsed definition member)
    (settles.admits _ definition _)

/-- What a source gives without a cache is of the kind. -/
theorem compileSource :
    EndsIn fails (∀ artifact ∈ ·, gives artifact)
      (compiler.compileSource file.name file.text file.scope validation) :=
  (DefinitionCompiler.compileSource_keeps (fun found refused => settles.refused found refused _)
    (fun _ parsed => settles.keeps_uncached parsed) trivial).1

/-- What a source gives through a cache is of the kind, and the cache stays sound. -/
theorem compileSource_cached {cache : Cache} (sound : cache.Sound compiler fun _ => True) :
    EndsIn fails (∀ stored ∈ ·, gives stored.artifact)
        (cache.compileSource file.name file.text file.scope validation).1 ∧
      (cache.compileSource file.name file.text file.scope validation).2.Sound compiler
        fun _ => True := by
  refine DefinitionCompiler.compileSource_keeps
    (fun found refused => settles.refused found refused _) ?_ sound
  intro definitions parsed definition member state isSound
  obtain ⟨answer, kept⟩ := settles.keeps_cached parsed definition member state isSound
  exact ⟨answer.of_map, kept⟩

end Compiler.Settles

/-! ## Files one after another -/

namespace SourceFile

variable {σ : Type} {compiler : Scope → DefinitionCompiler σ Artifact} {holds : σ → Prop}

theorem compile_keeps {file : SourceFile}
    (refused : ∀ found, Definition.parseAll file.name file.text = .error found →
      fails (.ofDiagnostic found))
    (each : ∀ definitions, Definition.parseAll file.name file.text = .ok definitions →
      ∀ definition ∈ definitions, (compiler file.scope).Keeps holds fails gives definition)
    {state : σ} (isState : holds state) :
    (compile compiler file state).1.Within fails gives ∧ holds (compile compiler file state).2 := by
  unfold compile
  cases parsed : Definition.parseAll file.name file.text with
  | error found =>
    exact ⟨⟨List.forall_mem_nil _, List.forall_mem_singleton.mpr (refused found parsed)⟩, isState⟩
  | ok definitions => exact compileEach_keeps file.name (each definitions parsed) isState

/-- What holds of the results of all definitions holds of the results of files. -/
theorem mapM_compile_keeps {files : List SourceFile}
    (refused : ∀ file ∈ files, ∀ found,
      Definition.parseAll file.name file.text = .error found → fails (.ofDiagnostic found))
    (each : ∀ file ∈ files, ∀ definitions,
      Definition.parseAll file.name file.text = .ok definitions →
        ∀ definition ∈ definitions, (compiler file.scope).Keeps holds fails gives definition)
    {state : σ} (isState : holds state) :
    ∀ result ∈ (files.mapM (compile compiler) state).1, result.Within fails gives := by
  induction files generalizing state with
  | nil => exact List.forall_mem_nil _
  | cons file files ih =>
    obtain ⟨first, kept⟩ := compile_keeps (refused file List.mem_cons_self)
      (each file List.mem_cons_self) isState
    have others := ih (List.forall_mem_cons.mp refused).2 (List.forall_mem_cons.mp each).2 kept
    rw [List.mapM_cons]
    exact List.forall_mem_cons.mpr ⟨first, others⟩

variable {files : List SourceFile} {compiler : Compiler} {validation : Bool}

theorem compileAll_within
    (settles : ∀ file ∈ files, compiler.Settles validation fails gives file) :
    ∀ result ∈ (files.mapM (compile (compiler.forFiles validation)) ()).1,
      result.Within fails gives := by
  have each : ∀ file ∈ files, ∀ definitions,
      Definition.parseAll file.name file.text = .ok definitions → ∀ definition ∈ definitions,
        (compiler.forFiles validation file.scope).Keeps (fun _ => True) fails gives definition :=
    fun file member _ parsed => (settles file member).keeps_uncached parsed
  exact mapM_compile_keeps
    (fun file member found refused => (settles file member).refused found refused []) each trivial

theorem compileAll_cached_within
    (settles : ∀ file ∈ files, compiler.Settles validation fails gives file) {cache : Cache}
    (sound : cache.Sound compiler fun _ => True) :
    ∀ result ∈ (files.mapM (compile (Cache.forFiles validation)) cache).1,
      result.Within fails gives :=
  mapM_compile_keeps
    (fun file member found refused => (settles file member).refused found refused [])
    (fun file member _ parsed => (settles file member).keeps_cached parsed) sound

end SourceFile

/-! ## Files at once -/

variable {setup : PoolSetup} {files : List SourceFile} {pool next : Pool}

/-- Whether all that a worker did is of some kind, and all that is before it as well. -/
structure Worker.Safe (setup : PoolSetup) (fails : Failure → Prop) (gives : Artifact → Prop)
    (worker : Worker) : Prop where
  file : setup.compiler.Settles setup.validation fails gives worker.file
  ready : worker.stage.Ready setup (fun _ => True) worker.file.scope fun _ => EndsIn fails gives
  result : worker.result.Within fails gives

theorem Worker.Acts.safe {worker next : Worker} {shared after : Shared}
    (acts : worker.Acts setup shared next after) (safe : worker.Safe setup fails gives)
    (sound : setup.cached = true → shared.cache.Sound setup.compiler fun _ => True) :
    next.Safe setup fails gives ∧
      (setup.cached = true → after.cache.Sound setup.compiler fun _ => True) := by
  obtain ⟨file, ready, artifacts, failures⟩ := safe
  obtain ⟨kept, sound⟩ := acts.ready (fun _ parsed => file.ready parsed) sound ready
  refine ⟨?_, sound⟩
  cases acts with
  | start | read | finish | take | advance => exact ⟨file, kept, artifacts, failures⟩
  | refuse stage refused =>
    exact ⟨file, kept, artifacts, List.forall_mem_append.mpr
      ⟨failures, List.forall_mem_singleton.mpr (file.refused _ refused _)⟩⟩
  | compiled stage =>
    rw [stage] at ready
    exact ⟨file, kept, List.forall_mem_append.mpr
      ⟨artifacts, List.forall_mem_singleton.mpr ready.1⟩, failures⟩
  | failed stage =>
    rw [stage] at ready
    exact ⟨file, kept, artifacts, List.forall_mem_append.mpr
      ⟨failures, List.forall_mem_singleton.mpr ready.1⟩⟩

/-- Whether all workers of a pool are safe and all they did is counted. -/
structure Pool.Safe (setup : PoolSetup) (fails : Failure → Prop) (gives : Artifact → Prop)
    (files : List SourceFile) (pool : Pool) : Prop extends Pool.Counted files pool where
  workers : ∀ worker ∈ pool.workers, worker.Safe setup fails gives
  sound : setup.cached = true → pool.shared.cache.Sound setup.compiler fun _ => True

namespace Pool

theorem safe_start {cache : Cache}
    (settles : ∀ file ∈ files, setup.compiler.Settles setup.validation fails gives file)
    (sound : setup.cached = true → cache.Sound setup.compiler fun _ => True) :
    (start cache files).Safe setup fails gives files where
  toCounted := counted_start cache files
  workers := by
    intro worker member
    obtain ⟨file, inFiles, rfl⟩ := List.mem_map.mp member
    exact ⟨settles file inFiles, trivial, List.forall_mem_nil _, List.forall_mem_nil _⟩
  sound := sound

theorem Safe.step (safe : pool.Safe setup fails gives files) {index : Nat}
    (stepped : pool.step setup index = some next) : next.Safe setup fails gives files := by
  obtain ⟨workers, sound⟩ := step_keeps
    (fun cache => setup.cached = true → cache.Sound setup.compiler fun _ => True)
    (fun acts => acts.safe) safe.workers safe.sound stepped
  exact ⟨safe.toCounted.step stepped, workers, sound⟩

theorem Safe.run (safe : pool.Safe setup fails gives files) {schedule : List Nat}
    (ran : pool.run setup schedule = some next) : next.Safe setup fails gives files :=
  run_keeps (fun safe stepped => safe.step stepped) safe ran

end Pool

end QueryTree
