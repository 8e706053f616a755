import QueryTree.Proofs.Compile.Answers
import QueryTree.Proofs.Compile.Failure

/-!
# Compiling files in any order

All schedules of a pool come to an end with the result of compiling the files one
after another without a cache.  The same holds of compiling them one after another
through the cache.
-/

namespace QueryTree

variable {setup : PoolSetup} {known : String → Prop} {files : List SourceFile}

namespace SourceFile

/-! ## One after another without a cache -/

/-- The result of compiling files one after another without a cache. -/
def sequential (setup : PoolSetup) (files : List SourceFile) : FilesResult :=
  ((compileAll (setup.compiler.forFiles setup.validation) files).run ()).1

theorem sequential_eq (setup : PoolSetup) (files : List SourceFile) :
    sequential setup files = gather (files.map (alone setup)) := by
  have results : ((files.mapM (compile (setup.compiler.forFiles setup.validation))).run ()).1 =
      files.map (alone setup) := by
    induction files with
    | nil => rfl
    | cons file files ih =>
      rw [List.mapM_cons, List.map_cons, ← ih]
      rfl
  exact congrArg gather results

theorem alone_common (file : SourceFile) :
    ∀ failure ∈ (file.alone setup).failures, failure.failure.IsCommon := by
  have each : ∀ definitions, Definition.parseAll file.name file.text = .ok definitions →
      ∀ definition ∈ definitions, (setup.compiler.forFiles setup.validation file.scope).Keeps
        (fun _ => True) Failure.IsCommon (fun _ => True) definition := by
    intro definitions parsed definition member _ _
    refine ⟨?_, trivial⟩
    change EndsIn _ _ (setup.compiler.compile definition file.scope setup.validation)
    cases outcome : setup.compiler.compile definition file.scope setup.validation with
    | ok artifact => exact trivial
    | error failure =>
      have formed := Definition.wellFormed_of_parseAll parsed definition member
      exact Compiler.compile_fails_commonly formed outcome
  exact (compile_keeps (fun _ _ => .inl rfl) each trivial).1.failures

theorem sequential_accounted (setup : PoolSetup) (files : List SourceFile) :
    (sequential setup files).Accounted := by
  rw [sequential_eq]
  apply gather_accounted
  intro result member
  obtain ⟨file, _, rfl⟩ := List.mem_map.mp member
  exact alone_common file

end SourceFile

/-- What a pool gives in the end is the result without a cache. -/
theorem Pool.Valid.result_eq {pool : Pool} (valid : pool.Valid setup known files)
    (finished : pool.isFinished = true) : pool.result = SourceFile.sequential setup files := by
  have results : pool.workers.map Worker.result = files.map (SourceFile.alone setup) := by
    rw [← valid.files, List.map_map]
    apply List.map_congr_left
    intro worker member
    exact (valid.workers worker member).result_eq_alone (List.all_eq_true.mp finished worker member)
  have artifacts : (pool.workers.map Worker.result).flatMap (·.artifacts) =
      pool.workers.flatMap (·.artifacts) := List.flatMap_map ..
  have failures : (pool.workers.map Worker.result).flatMap (·.failures) =
      pool.workers.flatMap (·.failures) := List.flatMap_map ..
  rw [SourceFile.sequential_eq, ← results, result, valid.compiled, valid.failed, ← artifacts,
    ← failures]
  rfl

/-! ## One after another through the cache -/

namespace Cache.Sound

variable {cache : Cache} (sound : Sound setup.compiler known cache) (distinct : NoCollision known)

include sound distinct

/-- Compiling the definitions of a file through a sound cache. -/
theorem compileEach (file : SourceFile) {definitions : List Definition}
    (ready : ∀ definition ∈ definitions,
      definition.Ready setup known file.scope (setup.Answers file.scope definition)) :
    (SourceFile.compileEach (Cache.forFiles setup.validation file.scope) file.name definitions
        cache).1 = file.definitionsAlone setup definitions ∧
      Sound setup.compiler known (SourceFile.compileEach
        (Cache.forFiles setup.validation file.scope) file.name definitions cache).2 := by
  induction definitions generalizing cache with
  | nil => exact ⟨rfl, sound⟩
  | cons definition definitions ih =>
    obtain ⟨isRead, isKnown, _, _⟩ := ready definition List.mem_cons_self
    obtain ⟨answer, kept⟩ := sound.compile distinct isRead isKnown
    obtain ⟨rest, last⟩ := ih kept (List.forall_mem_cons.mp ready).2
    cases result : cache.compile definition file.scope setup.validation with
    | mk first next =>
      rw [result] at answer rest last
      have cached {value : Except Failure Artifact} (same : first.map (·.artifact) = value) :
          Cache.forFiles setup.validation file.scope definition cache = (value, next) := by
        simp only [Cache.forFiles, result, same]
      cases first with
      | ok stored =>
        rw [SourceFile.definitionsAlone_ok answer.symm,
          SourceFile.compileEach_cons_ok (cached rfl), ← rest]
        exact ⟨rfl, last⟩
      | error failure =>
        rw [SourceFile.definitionsAlone_error answer.symm,
          SourceFile.compileEach_cons_error (cached rfl), ← rest]
        exact ⟨rfl, last⟩

/-- Compiling a file through a sound cache. -/
theorem compileFile (file : SourceFile)
    (isKnown : ∀ text ∈ file.hashed setup.validation, known text) :
    (SourceFile.compile (Cache.forFiles setup.validation) file cache).1 = file.alone setup ∧
      Sound setup.compiler known
        (SourceFile.compile (Cache.forFiles setup.validation) file cache).2 := by
  unfold SourceFile.compile
  cases parsed : Definition.parseAll file.name file.text with
  | error found =>
    rw [SourceFile.alone_of_error parsed]
    exact ⟨rfl, sound⟩
  | ok definitions =>
    rw [SourceFile.alone_of_ok parsed]
    obtain ⟨result, last⟩ :=
      sound.compileEach distinct file
        (SourceFile.ready_of_parseAll (fun _ => distinct) isKnown parsed)
    rw [← result]
    exact ⟨rfl, last⟩

/-- Compiling files one after another through a sound cache. -/
theorem compileFiles (isKnown : ∀ file ∈ files, ∀ text ∈ file.hashed setup.validation, known text) :
    ((SourceFile.compileAll (Cache.forFiles setup.validation) files).run cache).1 =
      SourceFile.sequential setup files := by
  have results : (files.mapM (SourceFile.compile (Cache.forFiles setup.validation)) cache).1 =
      files.map (SourceFile.alone setup) := by
    induction files generalizing cache with
    | nil => rfl
    | cons file files ih =>
      obtain ⟨first, kept⟩ := sound.compileFile distinct file (isKnown file List.mem_cons_self)
      have rest := ih kept (List.forall_mem_cons.mp isKnown).2
      rw [List.mapM_cons, List.map_cons, ← first, ← rest]
      rfl
  rw [SourceFile.sequential_eq, ← results]
  rfl

end Cache.Sound

/-! ## Any order -/

/-- Whether a cache of a compiler was used for nothing but requests with known
texts: one after another, or by a pool that may not be finished. -/
inductive Cache.Warm (compiler : Compiler) (known : String → Prop) : Cache → Prop where
  | make : Warm compiler known (Cache.make compiler)
  | perform {cache : Cache} {step : Cache.Step} (warm : Warm compiler known cache)
      (isRead : step.IsRead) (isKnown : ∀ text ∈ step.hashed compiler, known text) :
      Warm compiler known (cache.perform step).2
  | pool {cache : Cache} {setup : PoolSetup} {files : List SourceFile} {schedule : List Nat}
      {pool : Pool} (warm : Warm compiler known cache) (isCompiler : setup.compiler = compiler)
      (cached : setup.cached = true)
      (isKnown : ∀ file ∈ files, ∀ text ∈ file.hashed setup.validation, known text)
      (ran : (Pool.start cache files).run setup schedule = some pool) :
      Warm compiler known pool.shared.cache

variable {cache : Cache} {compiler : Compiler}

theorem Cache.Warm.sound (warm : cache.Warm compiler known) (distinct : NoCollision known) :
    Sound compiler known cache := by
  induction warm with
  | make => exact sound_make compiler known
  | perform warm isRead isKnown ih => exact (ih.perform distinct isRead isKnown).2
  | pool warm isCompiler cached isKnown ran ih =>
    subst isCompiler
    exact ((Pool.valid_start isKnown fun _ => ih).run (fun _ => distinct) ran).sound cached

/-- Every entry of a cache is the artifact of some request, whether or not the texts
that were hashed collide. -/
theorem Cache.Warm.sound_of_any {known : String → Prop} (warm : cache.Warm compiler known) :
    cache.Sound compiler fun _ => True := by
  induction warm with
  | make => exact sound_make compiler _
  | @perform cache step warm isRead isKnown ih =>
    cases step with
    | compile definition scope validation =>
      have admits : Admits compiler (fun _ => True) definition scope validation fun _ => True :=
        fun _ _ _ _ => trivial
      exact (ih.compile_admitted isRead (fun _ _ => trivial) trivial admits).2
    | compileSource name text scope validation =>
      exact ((Compiler.Settles.trivially compiler validation
        ⟨name, text, scope⟩).compileSource_cached ih).2
    | purge => exact ih.purge
  | pool warm isCompiler cached isKnown ran ih =>
    subst isCompiler
    exact ((Pool.safe_start (fun file _ => .trivially _ _ file) fun _ => ih).run ran).sound cached

/-- A schedule that ends has the result without a cache. -/
theorem Pool.finished_eq_sequential {cache : Cache} {schedule : List Nat} {pool : Pool}
    (warm : setup.cached = true → cache.Warm setup.compiler known ∧ NoCollision known ∧
      ∀ file ∈ files, ∀ text ∈ file.hashed setup.validation, known text)
    (ran : (start cache files).run setup schedule = some pool)
    (finished : pool.isFinished = true) : pool.result = SourceFile.sequential setup files := by
  by_cases cached : setup.cached = true
  · obtain ⟨warm, distinct, isKnown⟩ := warm cached
    have valid := valid_start isKnown fun _ => warm.sound distinct
    exact (valid.run (fun _ => distinct) ran).result_eq finished
  · have valid : (start cache files).Valid setup (fun _ => True) files :=
      valid_start (fun _ _ _ _ => trivial) fun isCached => absurd isCached cached
    exact (valid.run (fun isCached => absurd isCached cached) ran).result_eq finished

/-- Every schedule of a pool is bounded, goes on until all files are compiled and
then has the result of compiling the files one after another without a cache,
whatever the limit, whether the workers share a cache, and whatever that was used
for before.  The result accounts for all artifacts and failures.  Going through
the cache file by file gives it as well. -/
theorem Pool.run_eq_sequential {cache : Cache}
    (warm : setup.cached = true → cache.Warm setup.compiler known ∧ NoCollision known ∧
      ∀ file ∈ files, ∀ text ∈ file.hashed setup.validation, known text) :
    (∀ schedule pool, (start cache files).run setup schedule = some pool →
      schedule.length ≤ (start cache files).weight ∧
        (pool.isFinished = false → ∃ index next, pool.step setup index = some next) ∧
        (pool.isFinished = true → pool.result = SourceFile.sequential setup files)) ∧
      (SourceFile.sequential setup files).Accounted ∧
      (setup.cached = true →
        ((SourceFile.compileUnless false (Cache.forFiles setup.validation) files).run cache).1 =
          .ok (SourceFile.sequential setup files)) := by
  refine ⟨?_, SourceFile.sequential_accounted setup files, ?_⟩
  · intro schedule pool ran
    exact ⟨length_le_weight ran, exists_step setup, finished_eq_sequential warm ran⟩
  · intro cached
    obtain ⟨warm, distinct, isKnown⟩ := warm cached
    exact congrArg Except.ok ((warm.sound distinct).compileFiles distinct isKnown)

/-! ## Two workers that miss the same artifact -/

namespace Pool

/-- Two workers at once and a cache of one artifact. -/
def sampleSetup : PoolSetup := ⟨Cache.sampleCompiler, true, false, 2⟩

/-- A cache that remembers an artifact that none of the files asks for. -/
def sampleCache : Cache :=
  ((Cache.make Cache.sampleCompiler).perform
    (.compileSource "w" "fragment Card on User \x7b name \x7d" .empty false)).2

/-- The same fragment twice, and one that fails. -/
def sampleFiles : List SourceFile :=
  [⟨"a", "fragment Profile on User \x7b name \x7d", .empty⟩,
    ⟨"b", "fragment Profile on User \x7b\n  # again\n  name\n\x7d", .empty⟩,
    ⟨"c", "fragment Card on User \x7b age \x7d", .empty⟩]

/-- The first two workers act in turns, so that both look up the fragment before
one of them remembers it; the last one starts when the second one is done. -/
def sampleSchedule : List Nat :=
  [0, 1, 0, 1, 0, 1, 0, 1, 0, 1, 0, 1, 0, 1, 0, 1, 0, 1, 1, 2, 2, 2, 2, 2, 2, 2, 2, 2, 0]

/-- The texts that are hashed for the sample. -/
def sampleTexts : List String :=
  (Cache.Step.compileSource "w" "fragment Card on User \x7b name \x7d" .empty false).hashed
      Cache.sampleCompiler ++ sampleFiles.flatMap (SourceFile.hashed false)

theorem sampleTexts_noCollision : NoCollision (· ∈ sampleTexts) := by
  decide +kernel

theorem sampleSchedule_eq_sequential :
    ∃ pool, (start sampleCache sampleFiles).run sampleSetup sampleSchedule = some pool ∧
      pool.shared.cache.misses = 4 ∧ pool.result.compiled = 2 ∧ pool.result.failed = 1 ∧
      pool.result = SourceFile.sequential sampleSetup sampleFiles := by
  have evaluated : ((start sampleCache sampleFiles).run sampleSetup sampleSchedule).map
      (fun pool => (pool.isFinished, pool.shared.cache.misses, pool.result.compiled,
        pool.result.failed)) = some (true, 4, 2, 1) := by decide +kernel
  obtain ⟨pool, ran, counts⟩ := Option.map_eq_some_iff.mp evaluated
  simp only [Prod.mk.injEq] at counts
  obtain ⟨finished, misses, compiled, failed⟩ := counts
  have warm : sampleCache.Warm sampleSetup.compiler (· ∈ sampleTexts) :=
    .perform .make trivial fun _ hashed => List.mem_append_left _ hashed
  have isKnown : ∀ file ∈ sampleFiles, ∀ text ∈ file.hashed sampleSetup.validation,
      text ∈ sampleTexts := fun file member text hashed =>
    List.mem_append_right _ (List.mem_flatMap.mpr ⟨file, member, hashed⟩)
  exact ⟨pool, ran, misses, compiled, failed,
    ((run_eq_sequential fun _ => ⟨warm, sampleTexts_noCollision, isKnown⟩).1 _ pool ran).2.2
      finished⟩

end Pool

end QueryTree
