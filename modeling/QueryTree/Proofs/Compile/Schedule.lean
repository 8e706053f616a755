import QueryTree.Proofs.Compile.CacheRun
import QueryTree.Proofs.Compile.Pool

/-!
# The order of the workers does not matter

Whatever the workers of a pool find in the cache, and whatever is driven out of
it between two of their steps, each of them is about to give what its file gives
on its own, without a cache.  A step keeps this, and so does a run.
-/

namespace QueryTree

variable {setup : PoolSetup} {known : String → Prop} {scope : Scope}

namespace SourceFile

/-- The texts that are hashed for the definitions of a file. -/
def hashed (validation : Bool) (file : SourceFile) : List String :=
  match Definition.parseAll file.name file.text with
  | .ok definitions => definitions.flatMap (Cache.hashedText · file.scope validation)
  | .error _ => []

/-- What comes of definitions of a file without a cache. -/
def definitionsAlone (setup : PoolSetup) (file : SourceFile) (definitions : List Definition) :
    List Artifact × List FileFailure :=
  ((compileEach (setup.compiler.forFiles setup.validation file.scope) file.name definitions).run
    ()).1

/-- What comes of a file without a cache. -/
def alone (setup : PoolSetup) (file : SourceFile) : FileResult :=
  ((compile (setup.compiler.forFiles setup.validation) file).run ()).1

variable {artifact : Artifact} {definition : Definition} {σ : Type} {failure : Failure}
variable {file : SourceFile}

theorem compileEach_cons_ok {compile : DefinitionCompiler σ Artifact} {state next : σ}
    (compiled : compile definition state = (.ok artifact, next)) (file : String)
    (rest : List Definition) :
    compileEach compile file (definition :: rest) state =
      let others := compileEach compile file rest next
      ((artifact :: others.1.1, others.1.2), others.2) := by
  simp only [compileEach, bind, StateT.bind, compiled]
  rfl

theorem compileEach_cons_error {compile : DefinitionCompiler σ Artifact} {state next : σ}
    (failed : compile definition state = (.error failure, next)) (file : String)
    (rest : List Definition) :
    compileEach compile file (definition :: rest) state =
      let others := compileEach compile file rest next
      ((others.1.1, ⟨file, definition.name, failure⟩ :: others.1.2), others.2) := by
  simp only [compileEach, bind, StateT.bind, failed]
  rfl

theorem definitionsAlone_ok
    (compiled : setup.compiler.compile definition file.scope setup.validation = .ok artifact)
    (rest : List Definition) :
    file.definitionsAlone setup (definition :: rest) =
      (artifact :: (file.definitionsAlone setup rest).1, (file.definitionsAlone setup rest).2) :=
  congrArg Prod.fst (compileEach_cons_ok (congrArg (·, ()) compiled) file.name rest)

theorem definitionsAlone_error
    (failed : setup.compiler.compile definition file.scope setup.validation = .error failure)
    (rest : List Definition) :
    file.definitionsAlone setup (definition :: rest) =
      ((file.definitionsAlone setup rest).1,
        ⟨file.name, definition.name, failure⟩ :: (file.definitionsAlone setup rest).2) :=
  congrArg Prod.fst (compileEach_cons_error (congrArg (·, ()) failed) file.name rest)

theorem alone_of_ok {definitions : List Definition}
    (parsed : Definition.parseAll file.name file.text = .ok definitions) :
    file.alone setup = ⟨file.name, (file.definitionsAlone setup definitions).1,
      (file.definitionsAlone setup definitions).2⟩ := by
  simp only [alone, compile, parsed]
  rfl

theorem alone_of_error {found : Diagnostic}
    (refused : Definition.parseAll file.name file.text = .error found) :
    file.alone setup = ⟨file.name, [], [⟨file.name, "", .ofDiagnostic found⟩]⟩ := by
  simp only [alone, compile, refused]
  rfl

end SourceFile

/-! ## Compiling a definition -/

/-- Whether a definition was read, the text that is hashed for it is known, and all
that the compiler or a cache can give for it is among some answers. -/
structure Definition.Ready (setup : PoolSetup) (known : String → Prop) (scope : Scope)
    (answers : Except Failure Artifact → Prop) (definition : Definition) : Prop where
  isRead : definition.IsRead
  isKnown : ∀ form, definition.normalize = .ok form →
    known (Cache.keyText definition form scope setup.validation)
  own : answers (setup.compiler.compile definition scope setup.validation)
  stored : setup.cached = true →
    Cache.Admits setup.compiler known definition scope setup.validation answers

/-- Whether a result is the answer of the compiler to a definition. -/
def PoolSetup.Answers (setup : PoolSetup) (scope : Scope) (definition : Definition)
    (result : Except Failure Artifact) : Prop :=
  setup.compiler.compile definition scope setup.validation = result

/-- The definitions that are read from a file are ready for the answer of the
compiler. -/
theorem SourceFile.ready_of_parseAll {file : SourceFile}
    (distinct : setup.cached = true → NoCollision known)
    (isKnown : ∀ text ∈ file.hashed setup.validation, known text)
    {definitions : List Definition}
    (parsed : Definition.parseAll file.name file.text = .ok definitions) :
    ∀ definition ∈ definitions,
      definition.Ready setup known file.scope (setup.Answers file.scope definition) := by
  intro definition member
  have isRead := Definition.isRead_of_parseAll parsed definition member
  have isHashed : ∀ form, definition.normalize = .ok form →
      known (Cache.keyText definition form file.scope setup.validation) := by
    intro form normal
    apply isKnown
    simp only [hashed, parsed]
    exact List.mem_flatMap.mpr ⟨definition, member, Cache.mem_hashedText normal⟩
  exact ⟨isRead, isHashed, rfl, fun cached =>
    Cache.admits_compile (distinct cached) isRead isHashed⟩

/-- Whether an attempt is on the way to one of some answers. -/
def Attempt.Leads (setup : PoolSetup) (scope : Scope) (definition : Definition)
    (answers : Except Failure Artifact → Prop) : Attempt → Prop
  | .begun => True
  | .keyed form => setup.cached = true ∧ definition.normalize = .ok form
  | .found artifact => answers (.ok artifact)
  | .missed form => setup.cached = true ∧ definition.normalize = .ok form
  | .unknown form => setup.cached = true ∧ definition.normalize = .ok form
  | .compiled form artifact => setup.cached = true ∧ definition.normalize = .ok form ∧
      setup.compiler.compileNormal definition form scope setup.validation = .ok artifact
  | .answered result => answers result

/-- A step of an attempt keeps it on the way and the cache sound, whatever others
did to the cache before. -/
theorem Attempt.Leads.advance {definition : Definition} {attempt : Attempt} {cache : Cache}
    {answers : Except Failure Artifact → Prop} (ready : definition.Ready setup known scope answers)
    (leads : attempt.Leads setup scope definition answers)
    (sound : setup.cached = true → Cache.Sound setup.compiler known cache) :
    (attempt.advance setup scope definition cache).1.Leads setup scope definition answers ∧
      (setup.cached = true →
        Cache.Sound setup.compiler known (attempt.advance setup scope definition cache).2) := by
  have own := ready.own
  cases attempt with
  | begun =>
    simp only [Attempt.advance]
    split
    next cached =>
      cases normal : definition.normalize with
      | error found =>
        simp only [Compiler.compile, normal] at own
        exact ⟨own, sound⟩
      | ok form => exact ⟨⟨cached, normal⟩, sound⟩
    next => exact ⟨own, sound⟩
  | keyed form =>
    obtain ⟨cached, normal⟩ := leads
    obtain ⟨kept, answered⟩ :=
      (sound cached).lookup (Cache.key definition form scope setup.validation)
    simp only [Attempt.advance]
    split
    next stored next looked =>
      rw [looked] at kept answered
      -- Whoever stored it, the artifact answers a request with the same key.
      obtain ⟨request⟩ := answered stored rfl
      exact ⟨ready.stored cached form _ normal request, fun _ => kept⟩
    next next looked =>
      rw [looked] at kept
      exact ⟨⟨cached, normal⟩, fun _ => kept⟩
  | found artifact | missed form => exact ⟨leads, fun cached => (sound cached).count _ _⟩
  | unknown form =>
    obtain ⟨cached, normal⟩ := leads
    rw [setup.compiler.compile_of_normalize normal scope setup.validation] at own
    simp only [Attempt.advance]
    split
    next failure failed =>
      rw [failed] at own
      exact ⟨own, sound⟩
    next artifact compiled => exact ⟨⟨cached, normal, compiled⟩, sound⟩
  | compiled form artifact =>
    obtain ⟨cached, normal, compiled⟩ := leads
    rw [setup.compiler.compile_of_normalize normal scope setup.validation, compiled] at own
    -- It is inserted into the cache as it is now, which others changed since the lookup.
    refine ⟨own, fun _ => (sound cached).insert ⟨definition, form, scope, setup.validation,
      ready.isRead, normal, ready.isKnown form normal, rfl, compiled⟩⟩
  | answered result => exact ⟨leads, sound⟩

/-! ## Workers -/

/-- Whether a worker of a given stage has only definitions before it that are
ready, and its attempt is on the way to an answer. -/
def Stage.Ready (setup : PoolSetup) (known : String → Prop) (scope : Scope)
    (answers : Definition → Except Failure Artifact → Prop) : Stage → Prop
  | .between definitions => ∀ definition ∈ definitions,
      definition.Ready setup known scope (answers definition)
  | .busy attempt definition rest => attempt.Leads setup scope definition (answers definition) ∧
      ∀ other ∈ definition :: rest, other.Ready setup known scope (answers other)
  | _ => True

namespace Worker

/-- What a worker is still to give if it goes on without a cache. -/
def ahead (setup : PoolSetup) (worker : Worker) : List Artifact × List FileFailure :=
  match worker.stage with
  | .waiting => ((worker.file.alone setup).artifacts, (worker.file.alone setup).failures)
  | .reading => ((worker.file.alone setup).artifacts, (worker.file.alone setup).failures)
  | .between definitions => worker.file.definitionsAlone setup definitions
  | .busy _ definition rest => worker.file.definitionsAlone setup (definition :: rest)
  | .done => ([], [])

variable {worker next : Worker} {shared after : Shared}

/-- A step of a worker keeps what is before it ready and the cache sound. -/
theorem Acts.ready {answers : Definition → Except Failure Artifact → Prop}
    (acts : worker.Acts setup shared next after)
    (file : ∀ definitions,
      Definition.parseAll worker.file.name worker.file.text = .ok definitions →
        ∀ definition ∈ definitions,
          definition.Ready setup known worker.file.scope (answers definition))
    (sound : setup.cached = true → Cache.Sound setup.compiler known shared.cache)
    (ready : worker.stage.Ready setup known worker.file.scope answers) :
    next.stage.Ready setup known worker.file.scope answers ∧
      (setup.cached = true → Cache.Sound setup.compiler known after.cache) := by
  cases acts with
  | start stage | refuse stage refused | finish stage => exact ⟨trivial, sound⟩
  | read stage parsed => exact ⟨file _ parsed, sound⟩
  | take stage =>
    rw [stage] at ready
    exact ⟨⟨trivial, ready⟩, sound⟩
  | compiled stage | failed stage =>
    rw [stage] at ready
    exact ⟨fun other member => ready.2 other (List.mem_cons_of_mem _ member), sound⟩
  | advance stage unanswered =>
    rw [stage] at ready
    obtain ⟨leads, sound⟩ := ready.1.advance (ready.2 _ List.mem_cons_self) sound
    exact ⟨⟨leads, ready.2⟩, sound⟩

/-- Whether a worker has done its part of what its file gives on its own. -/
structure Valid (setup : PoolSetup) (known : String → Prop) (worker : Worker) : Prop where
  isKnown : ∀ text ∈ worker.file.hashed setup.validation, known text
  ready : worker.stage.Ready setup known worker.file.scope (setup.Answers worker.file.scope)
  artifacts : worker.artifacts ++ (worker.ahead setup).1 = (worker.file.alone setup).artifacts
  failures : worker.failures ++ (worker.ahead setup).2 = (worker.file.alone setup).failures

/-- A step of a worker keeps it valid and the cache sound. -/
theorem Acts.valid (acts : worker.Acts setup shared next after)
    (distinct : setup.cached = true → NoCollision known) (valid : worker.Valid setup known)
    (sound : setup.cached = true → Cache.Sound setup.compiler known shared.cache) :
    next.Valid setup known ∧
      (setup.cached = true → Cache.Sound setup.compiler known after.cache) := by
  obtain ⟨isKnown, ready, artifacts, failures⟩ := valid
  obtain ⟨kept, sound⟩ := acts.ready
    (fun _ parsed => SourceFile.ready_of_parseAll distinct isKnown parsed) sound ready
  refine ⟨?_, sound⟩
  cases acts with
  | start stage =>
    simp only [ahead, stage] at artifacts failures
    refine ⟨isKnown, kept, ?_, ?_⟩
    · simpa only [ahead] using artifacts
    · simpa only [ahead] using failures
  | @refuse found stage refused =>
    simp only [ahead, stage, SourceFile.alone_of_error refused] at artifacts failures
    refine ⟨isKnown, kept, ?_, ?_⟩
    · simpa only [ahead, SourceFile.alone_of_error refused] using artifacts
    · simpa only [ahead, SourceFile.alone_of_error refused, List.append_nil] using failures
  | read stage parsed =>
    simp only [ahead, stage, SourceFile.alone_of_ok parsed] at artifacts failures
    refine ⟨isKnown, kept, ?_, ?_⟩
    · simpa only [ahead, SourceFile.alone_of_ok parsed] using artifacts
    · simpa only [ahead, SourceFile.alone_of_ok parsed] using failures
  | finish stage | take stage | advance stage unanswered =>
    simp only [ahead, stage] at artifacts failures
    exact ⟨isKnown, kept, artifacts, failures⟩
  | compiled stage =>
    rw [stage] at ready
    have compiled := ready.1
    simp only [ahead, stage, SourceFile.definitionsAlone_ok compiled] at artifacts failures
    refine ⟨isKnown, kept, ?_, failures⟩
    simpa only [ahead, List.append_assoc, List.singleton_append] using artifacts
  | failed stage =>
    rw [stage] at ready
    have failed := ready.1
    simp only [ahead, stage, SourceFile.definitionsAlone_error failed] at artifacts failures
    refine ⟨isKnown, kept, artifacts, ?_⟩
    simpa only [ahead, List.append_assoc, List.singleton_append] using failures

/-- A step of a worker counts what it adds, and leaves it with its file. -/
theorem Acts.counts (acts : worker.Acts setup shared next after) :
    next.file = worker.file ∧
      after.compiled + worker.artifacts.length = shared.compiled + next.artifacts.length ∧
      after.failed + worker.failures.length = shared.failed + next.failures.length := by
  cases acts with
  | refuse | failed =>
    refine ⟨rfl, rfl, ?_⟩
    simp only [List.length_append, List.length_singleton]
    omega
  | compiled =>
    refine ⟨rfl, ?_, rfl⟩
    simp only [List.length_append, List.length_singleton]
    omega
  | _ => exact ⟨rfl, rfl, rfl⟩

theorem Valid.result_eq_alone (valid : worker.Valid setup known)
    (isDone : worker.stage.isDone = true) : worker.result = worker.file.alone setup := by
  obtain ⟨_, _, artifacts, failures⟩ := valid
  have stage : worker.stage = .done := by
    cases stage : worker.stage with
    | done => rfl
    | _ =>
      rw [stage] at isDone
      cases isDone
  simp only [ahead, stage, List.append_nil] at artifacts failures
  have named : (worker.file.alone setup).file = worker.file.name := by
    cases parsed : Definition.parseAll worker.file.name worker.file.text with
    | ok definitions => rw [SourceFile.alone_of_ok parsed]
    | error found => rw [SourceFile.alone_of_error parsed]
  rw [result, artifacts, failures, ← named]

end Worker

/-! ## Pools -/

/-- Whether a pool has a worker for each file and all the workers did is counted. -/
structure Pool.Counted (files : List SourceFile) (pool : Pool) : Prop where
  files : pool.workers.map (·.file) = files
  compiled : pool.shared.compiled = (pool.workers.flatMap (·.artifacts)).length
  failed : pool.shared.failed = (pool.workers.flatMap (·.failures)).length

/-- Whether all workers of a pool are valid and all they did is counted. -/
structure Pool.Valid (setup : PoolSetup) (known : String → Prop) (files : List SourceFile)
    (pool : Pool) : Prop extends Pool.Counted files pool where
  workers : ∀ worker ∈ pool.workers, worker.Valid setup known
  sound : setup.cached = true → Cache.Sound setup.compiler known pool.shared.cache

namespace Pool

variable {files : List SourceFile} {pool next : Pool}

theorem counted_start (cache : Cache) (files : List SourceFile) :
    (start cache files).Counted files where
  files := by
    simp only [start, List.map_map]
    exact List.map_id _
  compiled := by
    have none : (start cache files).workers.flatMap (·.artifacts) = [] := by simp [start]
    rw [none]
    rfl
  failed := by
    have none : (start cache files).workers.flatMap (·.failures) = [] := by simp [start]
    rw [none]
    rfl

variable {index : Nat}

theorem Counted.step (counted : pool.Counted files) (stepped : pool.step setup index = some next) :
    next.Counted files := by
  obtain ⟨before, worker, after, acted, split, act, rfl⟩ := step_eq_some stepped
  obtain ⟨isFiles, compiled, failed⟩ := counted
  obtain ⟨sameFile, countCompiled, countFailed⟩ := (Worker.acts_of_act act).counts
  simp only [split, List.map_append, List.map_cons, List.flatMap_append, List.flatMap_cons,
    List.length_append] at isFiles compiled failed
  refine ⟨?_, ?_, ?_⟩
  · rw [List.map_append, List.map_cons, sameFile, isFiles]
  · simp only [List.flatMap_append, List.flatMap_cons, List.length_append]
    omega
  · simp only [List.flatMap_append, List.flatMap_cons, List.length_append]
    omega

theorem valid_start {cache : Cache}
    (isKnown : ∀ file ∈ files, ∀ text ∈ file.hashed setup.validation, known text)
    (sound : setup.cached = true → Cache.Sound setup.compiler known cache) :
    (start cache files).Valid setup known files where
  toCounted := counted_start cache files
  workers := by
    intro worker member
    obtain ⟨file, inFiles, rfl⟩ := List.mem_map.mp member
    refine ⟨isKnown file inFiles, trivial, ?_, ?_⟩ <;>
      simp only [Worker.ahead, List.nil_append]
  sound := sound

theorem Valid.step (distinct : setup.cached = true → NoCollision known)
    (valid : pool.Valid setup known files) (stepped : pool.step setup index = some next) :
    next.Valid setup known files := by
  obtain ⟨workers, sound⟩ := step_keeps
    (fun cache => setup.cached = true → Cache.Sound setup.compiler known cache)
    (fun acts => acts.valid distinct) valid.workers valid.sound stepped
  exact ⟨valid.toCounted.step stepped, workers, sound⟩

theorem Valid.run (distinct : setup.cached = true → NoCollision known)
    (valid : pool.Valid setup known files) {schedule : List Nat}
    (ran : pool.run setup schedule = some next) : next.Valid setup known files :=
  run_keeps (fun valid stepped => valid.step distinct stepped) valid ran

end Pool

end QueryTree
