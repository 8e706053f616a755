import QueryTree.Proofs.Compile.Cache

/-!
# Runs of a cache

A run compiles definitions and sources through one cache and forgets all artifacts
now and then.  Its answers are those of the compiler, asked anew each time.
-/

namespace QueryTree

namespace DefinitionCompiler

variable {σ α : Type} {compile : DefinitionCompiler σ α} {definition : Definition} {state next : σ}

theorem compileAll_cons_error {failure : Failure}
    (failed : compile definition state = (.error failure, next)) (list : List Definition) :
    compile.compileAll (definition :: list) state = (.error failure, next) := by
  simp only [compileAll, bind, StateT.bind, failed]
  rfl

theorem compileAll_cons_ok {first : α} (compiled : compile definition state = (.ok first, next))
    (list : List Definition) :
    compile.compileAll (definition :: list) state =
      ((compile.compileAll list next).1.map (first :: ·), (compile.compileAll list next).2) := by
  simp only [compileAll, bind, StateT.bind, compiled]
  cases compile.compileAll list next with
  | mk result last => cases result <;> rfl

variable {name text : String}

theorem compileSource_of_ok {definitions : List Definition}
    (parsed : Definition.parseAll name text = .ok definitions) :
    compile.compileSource name text = compile.compileAll definitions := by
  rw [compileSource, parsed]

theorem compileSource_of_error {found : Diagnostic}
    (refused : Definition.parseAll name text = .error found) :
    compile.compileSource name text state =
      (.error ⟨["compiler.CompileSource", name], .diagnostic found⟩, state) := by
  rw [compileSource, refused]
  rfl

end DefinitionCompiler

namespace Cache

/-- What a cache can be asked. -/
inductive Step where
  | compile (definition : Definition) (scope : Scope) (validation : Bool)
  | compileSource (name text : String) (scope : Scope) (validation : Bool)
  | purge

/-- What comes of a step, with the artifacts on their own. -/
inductive Answer where
  | ofDefinition (result : Except Failure Artifact)
  | ofSource (result : Except Failure (List Artifact))
  | purged

/-- The answer of a cache to a step, and the cache after it. -/
def perform (cache : Cache) : Step → Answer × Cache
  | .compile definition scope validation =>
    let result := cache.compile definition scope validation
    (.ofDefinition (result.1.map (·.artifact)), result.2)
  | .compileSource name text scope validation =>
    let result := cache.compileSource name text scope validation
    (.ofSource (result.1.map (List.map (·.artifact))), result.2)
  | .purge => (.purged, cache.purge)

/-- The answers of a cache to steps in their order, and the cache after them. -/
def run (cache : Cache) : List Step → List Answer × Cache
  | [] => ([], cache)
  | step :: steps =>
    let (answer, next) := cache.perform step
    let (answers, last) := next.run steps
    (answer :: answers, last)

/-- The answer of a compiler that remembers nothing. -/
def Step.uncached (compiler : Compiler) : Step → Answer
  | .compile definition scope validation =>
    .ofDefinition (compiler.compile definition scope validation)
  | .compileSource name text scope validation =>
    .ofSource (compiler.compileSource name text scope validation)
  | .purge => .purged

/-- A definition that is compiled was read from a source. -/
def Step.IsRead : Step → Prop
  | .compile definition _ _ => definition.IsRead
  | _ => True

/-! ## The texts that are hashed -/

/-- The text that is hashed for a definition, unless it has no normal form. -/
def hashedText (definition : Definition) (scope : Scope) (validation : Bool) : List String :=
  match definition.normalize with
  | .ok form => [keyText definition form scope validation]
  | .error _ => []

/-- The texts that are hashed for definitions, up to the first one that fails. -/
def hashedTexts (compiler : Compiler) (scope : Scope) (validation : Bool) :
    List Definition → List String
  | [] => []
  | definition :: definitions =>
    hashedText definition scope validation ++
      match compiler.compile definition scope validation with
      | .ok _ => hashedTexts compiler scope validation definitions
      | .error _ => []

/-- The texts that are hashed in a step. -/
def Step.hashed (compiler : Compiler) : Step → List String
  | .compile definition scope validation => hashedText definition scope validation
  | .compileSource name text scope validation =>
    match Definition.parseAll name text with
    | .ok definitions => hashedTexts compiler scope validation definitions
    | .error _ => []
  | .purge => []

theorem mem_hashedText {definition : Definition} {scope : Scope} {validation : Bool}
    {form : NormalForm} (normal : definition.normalize = .ok form) :
    keyText definition form scope validation ∈ hashedText definition scope validation := by
  rw [hashedText, normal]
  exact List.mem_cons_self

namespace Sound

variable {compiler : Compiler} {known : String → Prop} {cache : Cache}
variable {scope : Scope} {validation : Bool}
variable (sound : Sound compiler known cache) (distinct : NoCollision known)

include sound distinct

/-- Compiling definitions one after another gives the answer of the compiler. -/
theorem compileAll {list : List Definition} (areRead : ∀ definition ∈ list, definition.IsRead)
    (isKnown : ∀ text ∈ hashedTexts compiler scope validation list, known text) :
    ((definitions scope validation).compileAll list cache).1.map (List.map (·.artifact)) =
        ((compiler.definitions scope validation).compileAll list ()).1 ∧
      Sound compiler known ((definitions scope validation).compileAll list cache).2 := by
  induction list generalizing cache with
  | nil => exact ⟨rfl, sound⟩
  | cons definition list ih =>
    rw [hashedTexts] at isKnown
    obtain ⟨answer, kept⟩ := sound.compile distinct (areRead definition List.mem_cons_self)
      fun form normal => isKnown _ (List.mem_append_left _ (mem_hashedText normal))
    have tailRead := fun other member => areRead other (List.mem_cons_of_mem definition member)
    cases result : cache.compile definition scope validation with
    | mk first next =>
      rw [result] at answer kept
      cases first with
      | error failure =>
        have direct : compiler.definitions scope validation definition () =
            (.error failure, ()) := congrArg (·, ()) answer.symm
        rw [DefinitionCompiler.compileAll_cons_error result,
          DefinitionCompiler.compileAll_cons_error direct]
        exact ⟨rfl, kept⟩
      | ok stored =>
        have direct : compiler.definitions scope validation definition () =
            (.ok stored.artifact, ()) := congrArg (·, ()) answer.symm
        have tailKnown : ∀ text ∈ hashedTexts compiler scope validation list, known text := by
          intro text member
          refine isKnown text (List.mem_append_right _ ?_)
          rw [← answer]
          exact member
        obtain ⟨answers, last⟩ := ih kept tailRead tailKnown
        rw [DefinitionCompiler.compileAll_cons_ok result,
          DefinitionCompiler.compileAll_cons_ok direct]
        refine ⟨?_, last⟩
        dsimp only
        rw [← answers]
        cases ((definitions scope validation).compileAll list next).1 <;> rfl

/-- Compiling a source gives the answer of the compiler. -/
theorem compileSource {name text : String}
    (isKnown : ∀ hashed ∈ (Step.compileSource name text scope validation).hashed compiler,
      known hashed) :
    (cache.compileSource name text scope validation).1.map (List.map (·.artifact)) =
        compiler.compileSource name text scope validation ∧
      Sound compiler known (cache.compileSource name text scope validation).2 := by
  unfold Cache.compileSource Compiler.compileSource StateT.run
  cases parsed : Definition.parseAll name text with
  | error found =>
    rw [DefinitionCompiler.compileSource_of_error parsed,
      DefinitionCompiler.compileSource_of_error parsed]
    exact ⟨rfl, sound⟩
  | ok definitions =>
    simp only [Step.hashed, parsed] at isKnown
    rw [DefinitionCompiler.compileSource_of_ok parsed,
      DefinitionCompiler.compileSource_of_ok parsed]
    exact sound.compileAll distinct (Definition.isRead_of_parseAll parsed) isKnown

/-- A step is answered like by the compiler and leaves the cache sound. -/
theorem perform {step : Step} (isRead : step.IsRead)
    (isKnown : ∀ text ∈ step.hashed compiler, known text) :
    (cache.perform step).1 = step.uncached compiler ∧
      Sound compiler known (cache.perform step).2 := by
  cases step with
  | compile definition scope validation =>
    obtain ⟨answer, kept⟩ := sound.compile distinct isRead
      fun form normal => isKnown _ (mem_hashedText normal)
    exact ⟨congrArg Answer.ofDefinition answer, kept⟩
  | compileSource name text scope validation =>
    obtain ⟨answer, kept⟩ := sound.compileSource distinct isKnown
    exact ⟨congrArg Answer.ofSource answer, kept⟩
  | purge => exact ⟨rfl, sound.purge⟩

theorem run {steps : List Step} (isRead : ∀ step ∈ steps, step.IsRead)
    (isKnown : ∀ step ∈ steps, ∀ text ∈ step.hashed compiler, known text) :
    (cache.run steps).1 = steps.map (Step.uncached compiler) ∧
      Sound compiler known (cache.run steps).2 := by
  induction steps generalizing cache with
  | nil => exact ⟨rfl, sound⟩
  | cons step steps ih =>
    obtain ⟨answer, next⟩ := sound.perform distinct (isRead step List.mem_cons_self)
      (isKnown step List.mem_cons_self)
    obtain ⟨answers, last⟩ := ih next
      (List.forall_mem_cons.mp isRead).2
      (List.forall_mem_cons.mp isKnown).2
    refine ⟨?_, last⟩
    change (cache.perform step).1 :: ((cache.perform step).2.run steps).1 = _
    rw [answer, answers]
    rfl

end Sound

/-- The answers of a run from an empty cache are those of the compiler, asked anew
each time: the same failures, and the same artifacts.  The texts that are hashed
in the run must not collide. -/
theorem run_eq_uncached (compiler : Compiler) (steps : List Step)
    (isRead : ∀ step ∈ steps, step.IsRead)
    (distinct : NoCollision (· ∈ steps.flatMap (Step.hashed compiler))) :
    ((make compiler).run steps).1 = steps.map (Step.uncached compiler) := by
  refine ((sound_make compiler _).run distinct isRead fun step member text hashed => ?_).1
  exact List.mem_flatMap.mpr ⟨step, member, hashed⟩

/-- A compiler with room for one artifact. -/
def sampleCompiler : Compiler where
  schema :=
    { types :=
        [⟨.object, "User", [], [],
            [⟨"name", [], .named "String" false .unknown, none, [], "", .unknown⟩], [], [], "",
            false, .unknown⟩,
          ⟨.scalar, "String", [], [], [], [], [], "", true, .unknown⟩]
      directives := []
      query := none
      mutation := none
      subscription := none
      names := .camelCase }
  config := ⟨defaultInputArgument, false, 1, 0⟩

/-- A fragment is compiled, found again in another layout, driven out by another
one and, after all is forgotten, fails to compile. -/
def sampleSteps : List Step :=
  ((Definition.parseAll "a" "fragment Profile on User \x7b name \x7d").toOption.getD []).map
      (.compile · .empty false) ++
    [.compileSource "b" "fragment Profile on User \x7b\n  # again\n  name\n\x7d" .empty false,
      .compileSource "c" "fragment Card on User \x7b name \x7d" .empty false, .purge,
      .compileSource "d" "fragment Card on User \x7b age \x7d" .empty true]

theorem sampleSteps_isRead : ∀ step ∈ sampleSteps, step.IsRead := by
  intro step member
  rcases List.mem_append.mp member with compiled | other
  · obtain ⟨definition, isRead, rfl⟩ := List.mem_map.mp compiled
    cases parsed : Definition.parseAll "a" "fragment Profile on User \x7b name \x7d" with
    | error found =>
      rw [parsed] at isRead
      cases isRead
    | ok definitions =>
      rw [parsed] at isRead
      exact ⟨_, _, definitions, parsed, isRead⟩
  · simp only [List.mem_cons, List.not_mem_nil, or_false] at other
    rcases other with rfl | rfl | rfl | rfl <;> exact trivial

theorem sampleSteps_noCollision :
    NoCollision (· ∈ sampleSteps.flatMap (Step.hashed sampleCompiler)) := by
  decide +kernel

/-- Among the answers of the run, one comes from the cache. -/
theorem sampleSteps_uncached :
    ((make sampleCompiler).run sampleSteps).2.hits = 1 ∧
      ((make sampleCompiler).run sampleSteps).2.misses = 3 ∧
      ((make sampleCompiler).run sampleSteps).1 =
        sampleSteps.map (Step.uncached sampleCompiler) :=
  ⟨by decide +kernel, by decide +kernel,
    run_eq_uncached sampleCompiler sampleSteps sampleSteps_isRead sampleSteps_noCollision⟩

end Cache

end QueryTree
