import Mathlib.Algebra.Ring.Nat
import QueryTree.Compile.Files

/-!
# A pool of workers

Files are compiled at once by workers, one for each file, which share a cache and
two counts.  A step of a worker is one access to what is shared, with what the
worker does on its own before the next access; between two steps any other
workers may act.  Workers start in the order of the files, as many at once as
the limit allows for.  A schedule names the worker that acts next.
-/

namespace QueryTree

/-- What all workers of a pool go by. -/
structure PoolSetup where
  compiler : Compiler
  /-- Whether the workers go through the cache of the pool. -/
  cached : Bool
  validation : Bool
  /-- How many workers may be active, without a limit if it is not positive. -/
  limit : Int

/-- How far the compilation of one definition is. -/
inductive Attempt where
  | begun
  /-- The key is to be looked up. -/
  | keyed (form : NormalForm)
  /-- An artifact was found, and the hit is to be counted. -/
  | found (artifact : Artifact)
  /-- Nothing was found, and the miss is to be counted. -/
  | missed (form : NormalForm)
  /-- The definition is to be compiled. -/
  | unknown (form : NormalForm)
  /-- The artifact is to be remembered. -/
  | compiled (form : NormalForm) (artifact : Artifact)
  | answered (result : Except Failure Artifact)

/-- Take the next step of compiling a definition. -/
def Attempt.advance (setup : PoolSetup) (scope : Scope) (definition : Definition) (cache : Cache) :
    Attempt → Attempt × Cache
  | .begun =>
    if setup.cached then
      match definition.normalize with
      | .error problem => (.answered (.error (.ofDiagnostic problem)), cache)
      | .ok form => (.keyed form, cache)
    else (.answered (setup.compiler.compile definition scope setup.validation), cache)
  | .keyed form =>
    match cache.lookup (Cache.key definition form scope setup.validation) with
    | (some stored, cache) => (.found stored.artifact, cache)
    | (none, cache) => (.missed form, cache)
  | .found artifact => (.answered (.ok artifact), { cache with hits := cache.hits + 1 })
  | .missed form => (.unknown form, { cache with misses := cache.misses + 1 })
  | .unknown form =>
    match setup.compiler.compileNormal definition form scope setup.validation with
    | .error failure => (.answered (.error failure), cache)
    | .ok artifact => (.compiled form artifact, cache)
  | .compiled form artifact =>
    (.answered (.ok artifact),
      (cache.insert (Cache.key definition form scope setup.validation) artifact).2)
  | .answered result => (.answered result, cache)

/-- What a worker is about to do. -/
inductive Stage where
  /-- It is not started. -/
  | waiting
  /-- It reads its file. -/
  | reading
  /-- It turns to the next definition. -/
  | between (definitions : List Definition)
  /-- It compiles a definition and has the rest before it. -/
  | busy (attempt : Attempt) (definition : Definition) (rest : List Definition)
  | done

namespace Stage

/-- Whether a worker is not started. -/
def isWaiting : Stage → Bool
  | .waiting => true
  | _ => false

/-- Whether a worker has nothing left to do. -/
def isDone : Stage → Bool
  | .done => true
  | _ => false

theorem isDone_of_isWaiting {stage : Stage} (waits : stage.isWaiting = true) :
    stage.isDone = false := by
  cases stage with
  | waiting => rfl
  | _ => cases waits

end Stage

/-- A worker with what came of its file up to now. -/
structure Worker where
  file : SourceFile
  stage : Stage
  artifacts : List Artifact
  failures : List FileFailure

/-- What workers share. -/
structure Shared where
  cache : Cache
  compiled : Nat
  failed : Nat

namespace Worker

/-- What came of the file of a worker. -/
def result (worker : Worker) : FileResult := ⟨worker.file.name, worker.artifacts, worker.failures⟩

/-- The next step of a worker, unless it is done. -/
def act (setup : PoolSetup) (worker : Worker) (shared : Shared) : Option (Worker × Shared) :=
  match worker.stage with
  | .waiting => some ({ worker with stage := .reading }, shared)
  | .reading =>
    match Definition.parseAll worker.file.name worker.file.text with
    | .error found =>
      let failure := ⟨worker.file.name, "", .ofDiagnostic found⟩
      some ({ worker with stage := .done, failures := worker.failures ++ [failure] },
        { shared with failed := shared.failed + 1 })
    | .ok definitions => some ({ worker with stage := .between definitions }, shared)
  | .between [] => some ({ worker with stage := .done }, shared)
  | .between (definition :: rest) =>
    some ({ worker with stage := .busy .begun definition rest }, shared)
  | .busy (.answered (.ok artifact)) _ rest =>
    some ({ worker with stage := .between rest, artifacts := worker.artifacts ++ [artifact] },
      { shared with compiled := shared.compiled + 1 })
  | .busy (.answered (.error failure)) definition rest =>
    let failure := ⟨worker.file.name, definition.name, failure⟩
    some ({ worker with stage := .between rest, failures := worker.failures ++ [failure] },
      { shared with failed := shared.failed + 1 })
  | .busy attempt definition rest =>
    let advanced := attempt.advance setup worker.file.scope definition shared.cache
    some ({ worker with stage := .busy advanced.1 definition rest },
      { shared with cache := advanced.2 })
  | .done => none

/-- What a worker with a given stage can do in a step. -/
inductive Acts (setup : PoolSetup) (worker : Worker) (shared : Shared) : Worker → Shared → Prop where
  | start (stage : worker.stage = .waiting) :
      Acts setup worker shared { worker with stage := .reading } shared
  | refuse {found : Diagnostic} (stage : worker.stage = .reading)
      (refused : Definition.parseAll worker.file.name worker.file.text = .error found) :
      Acts setup worker shared
        { worker with
          stage := .done
          failures := worker.failures ++ [⟨worker.file.name, "", .ofDiagnostic found⟩] }
        { shared with failed := shared.failed + 1 }
  | read {definitions : List Definition} (stage : worker.stage = .reading)
      (parsed : Definition.parseAll worker.file.name worker.file.text = .ok definitions) :
      Acts setup worker shared { worker with stage := .between definitions } shared
  | finish (stage : worker.stage = .between []) :
      Acts setup worker shared { worker with stage := .done } shared
  | take {definition : Definition} {rest : List Definition}
      (stage : worker.stage = .between (definition :: rest)) :
      Acts setup worker shared { worker with stage := .busy .begun definition rest } shared
  | compiled {artifact : Artifact} {definition : Definition} {rest : List Definition}
      (stage : worker.stage = .busy (.answered (.ok artifact)) definition rest) :
      Acts setup worker shared
        { worker with stage := .between rest, artifacts := worker.artifacts ++ [artifact] }
        { shared with compiled := shared.compiled + 1 }
  | failed {failure : Failure} {definition : Definition} {rest : List Definition}
      (stage : worker.stage = .busy (.answered (.error failure)) definition rest) :
      Acts setup worker shared
        { worker with
          stage := .between rest
          failures := worker.failures ++ [⟨worker.file.name, definition.name, failure⟩] }
        { shared with failed := shared.failed + 1 }
  | advance {attempt : Attempt} {definition : Definition} {rest : List Definition}
      (stage : worker.stage = .busy attempt definition rest)
      (unanswered : ∀ result, attempt ≠ .answered result) :
      Acts setup worker shared
        { worker with
          stage := .busy (attempt.advance setup worker.file.scope definition shared.cache).1
            definition rest }
        { shared with
          cache := (attempt.advance setup worker.file.scope definition shared.cache).2 }

theorem acts_of_act {setup : PoolSetup} {worker : Worker} {shared : Shared}
    {acted : Worker × Shared} (act : worker.act setup shared = some acted) :
    worker.Acts setup shared acted.1 acted.2 := by
  unfold Worker.act at act
  split at act
  next stage =>
    cases act
    exact .start stage
  next stage =>
    split at act
    next found refused =>
      cases act
      exact .refuse stage refused
    next definitions parsed =>
      cases act
      exact .read stage parsed
  next stage =>
    cases act
    exact .finish stage
  next definition rest stage =>
    cases act
    exact .take stage
  next artifact definition rest stage =>
    cases act
    exact .compiled stage
  next failure definition rest stage =>
    cases act
    exact .failed stage
  next attempt definition rest noArtifact noFailure stage =>
    cases act
    refine .advance stage fun result answered => ?_
    cases result with
    | ok artifact => exact noArtifact artifact answered
    | error failure => exact noFailure failure answered
  next => cases act

end Worker

/-- Workers in the order of their files, with what they share. -/
structure Pool where
  workers : List Worker
  shared : Shared

namespace Pool

/-- A pool for files that are all still to be compiled. -/
def start (cache : Cache) (files : List SourceFile) : Pool :=
  ⟨files.map (⟨·, .waiting, [], []⟩), ⟨cache, 0, 0⟩⟩

/-- How many workers are started and not done. -/
def active (pool : Pool) : Nat :=
  pool.workers.countP fun worker => !worker.stage.isWaiting && !worker.stage.isDone

/-- Whether a worker may act.  To be started, it needs room, and all workers before
it have to be started. -/
def mayAct (setup : PoolSetup) (pool : Pool) (index : Nat) (worker : Worker) : Bool :=
  !worker.stage.isWaiting ||
    (pool.workers.take index).all (!·.stage.isWaiting) &&
      (decide (setup.limit ≤ 0) || decide ((pool.active : Int) < setup.limit))

/-- The pool after the next step of a worker, unless it may not act or is done. -/
def step (setup : PoolSetup) (pool : Pool) (index : Nat) : Option Pool :=
  match pool.workers[index]? with
  | none => none
  | some worker =>
    if pool.mayAct setup index worker then
      (worker.act setup pool.shared).map fun acted =>
        ⟨pool.workers.set index acted.1, acted.2⟩
    else none

/-- The pool after the steps of the workers that a schedule names. -/
def run (setup : PoolSetup) (pool : Pool) : List Nat → Option Pool
  | [] => some pool
  | index :: schedule => (pool.step setup index).bind (run setup · schedule)

/-- Whether all workers are done. -/
def isFinished (pool : Pool) : Bool := pool.workers.all (·.stage.isDone)

/-- What came of the files, with the counts that the workers kept. -/
def result (pool : Pool) : FilesResult :=
  { SourceFile.gather (pool.workers.map Worker.result) with
    compiled := pool.shared.compiled
    failed := pool.shared.failed }

theorem step_eq_some {setup : PoolSetup} {pool next : Pool} {index : Nat}
    (stepped : pool.step setup index = some next) : ∃ before worker after acted,
      pool.workers = before ++ worker :: after ∧
        worker.act setup pool.shared = some acted ∧
        next = ⟨before ++ acted.1 :: after, acted.2⟩ := by
  unfold step at stepped
  split at stepped
  · cases stepped
  next worker found =>
    split at stepped
    next =>
      obtain ⟨acted, acts, rfl⟩ := Option.map_eq_some_iff.mp stepped
      obtain ⟨within, isWorker⟩ := List.getElem?_eq_some_iff.mp found
      refine ⟨pool.workers.take index, worker, pool.workers.drop (index + 1), acted, ?_, acts, ?_⟩
      · rw [← isWorker, List.getElem_cons_drop, List.take_append_drop]
      · rw [List.set_eq_take_append_cons_drop, if_pos within]
    next => cases stepped

variable {setup : PoolSetup} {pool next last : Pool} {index : Nat}

/-- What each worker keeps of itself and of the cache, the pool keeps of all of them. -/
theorem step_keeps {good : Worker → Prop} (fine : Cache → Prop)
    (acts : ∀ {worker next : Worker} {shared after : Shared}, worker.Acts setup shared next after →
      good worker → fine shared.cache → good next ∧ fine after.cache)
    (workers : ∀ worker ∈ pool.workers, good worker) (cache : fine pool.shared.cache)
    (stepped : pool.step setup index = some next) :
    (∀ worker ∈ next.workers, good worker) ∧ fine next.shared.cache := by
  obtain ⟨before, worker, after, acted, split, act, rfl⟩ := step_eq_some stepped
  rw [split] at workers
  obtain ⟨isGood, isFine⟩ := acts (Worker.acts_of_act act) (workers worker (by simp)) cache
  refine ⟨fun other member => ?_, isFine⟩
  rcases List.mem_append.mp member with inBefore | inRest
  · exact workers other (List.mem_append_left _ inBefore)
  rcases List.mem_cons.mp inRest with rfl | inAfter
  · exact isGood
  · exact workers other (List.mem_append_right _ (List.mem_cons_of_mem _ inAfter))

/-- What every step keeps holds of all pools of a run. -/
theorem run_keeps {holds : Pool → Prop}
    (step : ∀ {pool next : Pool} {index : Nat}, holds pool →
      pool.step setup index = some next → holds next)
    (start : holds pool) {schedule : List Nat} (ran : pool.run setup schedule = some last) :
    holds last := by
  induction schedule generalizing pool with
  | nil =>
    cases ran
    exact start
  | cons index schedule ih =>
    obtain ⟨between, stepped, ran⟩ := Option.bind_eq_some_iff.mp ran
    exact ih (step start stepped) ran

end Pool

/-! ## Every run comes to an end -/

/-- How many steps are left of an attempt at most. -/
def Attempt.rank : Attempt → Nat
  | .begun => 6
  | .keyed _ => 5
  | .missed _ => 4
  | .unknown _ => 3
  | .found _ => 2
  | .compiled _ _ => 2
  | .answered _ => 1

theorem Attempt.rank_advance (setup : PoolSetup) (scope : Scope) (definition : Definition)
    (cache : Cache) {attempt : Attempt} (unanswered : ∀ result, attempt ≠ .answered result) :
    (attempt.advance setup scope definition cache).1.rank < attempt.rank := by
  cases attempt with
  | begun =>
    simp only [advance]
    split
    · split <;> simp [rank]
    · simp [rank]
  | keyed form | unknown form =>
    simp only [advance]
    split <;> simp [rank]
  | found artifact | missed form | compiled form artifact => simp [advance, rank]
  | answered result => exact absurd rfl (unanswered result)

namespace Worker

/-- How many steps are left of a worker at most. -/
def weight (worker : Worker) : Nat :=
  match worker.stage with
  | .waiting => toRead + 1
  | .reading => toRead
  | .between definitions => 7 * definitions.length + 1
  | .busy attempt _ rest => 7 * rest.length + 1 + attempt.rank
  | .done => 0
where
  toRead : Nat :=
    match Definition.parseAll worker.file.name worker.file.text with
    | .error _ => 1
    | .ok definitions => 7 * definitions.length + 2

variable {worker : Worker}

theorem Acts.weight_lt {setup : PoolSetup} {next : Worker} {shared after : Shared}
    (acts : worker.Acts setup shared next after) : next.weight < worker.weight := by
  cases acts with
  | start stage =>
    simp only [weight, stage, weight.toRead]
    omega
  | refuse stage refused | read stage refused =>
    simp only [weight, stage, weight.toRead, refused]
    omega
  | finish stage | take stage | compiled stage | failed stage =>
    simp only [weight, stage, List.length_cons, Attempt.rank]
    omega
  | @advance attempt definition rest stage unanswered =>
    have less := Attempt.rank_advance setup worker.file.scope definition shared.cache unanswered
    simp only [weight, stage]
    omega

/-- A worker that is not done can act. -/
theorem act_isSome (setup : PoolSetup) (shared : Shared) (isDone : worker.stage.isDone = false) :
    (worker.act setup shared).isSome = true := by
  unfold act
  split
  case h_2 => split <;> rfl
  case h_8 stage =>
    rw [stage] at isDone
    cases isDone
  all_goals rfl

end Worker

namespace Pool

/-- How many steps are left of a pool at most. -/
def weight (pool : Pool) : Nat := (pool.workers.map Worker.weight).sum

variable {pool : Pool} {setup : PoolSetup}

theorem weight_step {next : Pool} {index : Nat} (stepped : pool.step setup index = some next) :
    next.weight < pool.weight := by
  obtain ⟨before, worker, after, acted, split, acts, rfl⟩ := step_eq_some stepped
  have less := (Worker.acts_of_act acts).weight_lt
  simp only [weight, split, List.map_append, List.map_cons, List.sum_append, List.sum_cons]
  omega

/-- No schedule is longer than the weight of the pool it starts from. -/
theorem length_le_weight {last : Pool} {schedule : List Nat}
    (ran : pool.run setup schedule = some last) : schedule.length ≤ pool.weight := by
  induction schedule generalizing pool with
  | nil => exact Nat.zero_le _
  | cons index schedule ih =>
    obtain ⟨next, stepped, ran⟩ := Option.bind_eq_some_iff.mp ran
    have less := weight_step stepped
    have rest := ih ran
    rw [List.length_cons]
    omega

/-- As long as not all workers are done, one of them may act. -/
theorem exists_step (setup : PoolSetup) (unfinished : pool.isFinished = false) :
    ∃ index next, pool.step setup index = some next := by
  have acting {index : Nat} {worker : Worker} (found : pool.workers[index]? = some worker)
      (isDone : worker.stage.isDone = false) (may : pool.mayAct setup index worker = true) :
      ∃ index next, pool.step setup index = some next := by
    obtain ⟨acted, acts⟩ := Option.isSome_iff_exists.mp (worker.act_isSome setup pool.shared isDone)
    refine ⟨index, ⟨pool.workers.set index acted.1, acted.2⟩, ?_⟩
    simp only [step, found, may, if_true, acts, Option.map_some]
  by_cases idle : ∃ worker ∈ pool.workers, worker.stage.isWaiting = false ∧
      worker.stage.isDone = false
  · obtain ⟨worker, member, isWaiting, isDone⟩ := idle
    obtain ⟨index, found⟩ := List.mem_iff_getElem?.mp member
    exact acting found isDone (by simp [mayAct, isWaiting])
  · -- Nobody is active, so that there is room for the first worker that waits.
    have inactive : pool.active = 0 := by
      refine List.countP_eq_zero.mpr fun worker member acts => idle ⟨worker, member, ?_⟩
      simpa using acts
    obtain ⟨waiting, member, notDone⟩ := List.all_eq_false.mp unfinished
    have waits : waiting.stage.isWaiting = true := by
      cases started : waiting.stage.isWaiting with
      | true => rfl
      | false => exact absurd ⟨waiting, member, started, by simpa using notDone⟩ idle
    have waitsSome : (pool.workers.find? (·.stage.isWaiting)).isSome = true :=
      List.find?_isSome.mpr ⟨waiting, member, waits⟩
    obtain ⟨first, isFirst⟩ := Option.isSome_iff_exists.mp waitsSome
    obtain ⟨firstWaits, before, after, split, started⟩ := List.find?_eq_some_iff_append.mp isFirst
    have found : pool.workers[before.length]? = some first := by simp [split]
    apply acting found
    · exact Stage.isDone_of_isWaiting firstWaits
    · have room : setup.limit ≤ 0 ∨ (pool.active : Int) < setup.limit := by omega
      simp only [mayAct, split, List.take_left, Bool.or_eq_true, Bool.and_eq_true,
        decide_eq_true_eq]
      exact .inr ⟨List.all_eq_true.mpr started, room⟩

end Pool

end QueryTree
