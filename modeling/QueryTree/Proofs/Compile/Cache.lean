import QueryTree.Proofs.Compile.Key

/-!
# A cache answers like its compiler

Every entry of a cache is the artifact of a request with the text that its key is
the digest of.  Looking an entry up, remembering one, forgetting the least recent
one and forgetting all of them keep this, so that a cache gives the answers of its
compiler as long as the texts that were hashed have different digests.
-/

namespace QueryTree

variable {definition : Definition}

/-- Different texts of a kind have different digests. -/
def NoCollision (known : String → Prop) : Prop :=
  ∀ left right, known left → known right → Text.digest left = Text.digest right → left = right

instance (texts : List String) : Decidable (NoCollision (· ∈ texts)) :=
  decidable_of_iff
    (∀ left ∈ texts, ∀ right ∈ texts, Text.digest left = Text.digest right → left = right)
    ⟨fun distinct left right isLeft => distinct left isLeft right,
      fun distinct left isLeft right => distinct left right isLeft⟩

theorem Compiler.compile_of_normalize (compiler : Compiler) {form : NormalForm}
    (normal : definition.normalize = .ok form) (scope : Scope) (validation : Bool) :
    compiler.compile definition scope validation =
      compiler.compileNormal definition form scope validation := by
  simp only [compile, normal]
  rfl

namespace Cache

variable {compiler : Compiler} {known : String → Prop}

/-! ## Sound entries -/

/-- An artifact that a request with a known text was given under a key. -/
structure Request (compiler : Compiler) (known : String → Prop) (key : UInt64)
    (artifact : Artifact) where
  definition : Definition
  form : NormalForm
  scope : Scope
  validation : Bool
  isRead : definition.IsRead
  normal : definition.normalize = .ok form
  isKnown : known (keyText definition form scope validation)
  isKey : key = Cache.key definition form scope validation
  compiled : compiler.compileNormal definition form scope validation = .ok artifact

/-- Whether a cache belongs to a compiler and all its entries answer requests. -/
structure Sound (compiler : Compiler) (known : String → Prop) (cache : Cache) : Prop where
  compiler_eq : cache.compiler = compiler
  entries : ∀ key stored, (key, stored) ∈ cache.entries →
    Nonempty (Request compiler known key stored.artifact)

variable {definition : Definition} {scope : Scope} {validation : Bool}

/-- The entry under the key of a request is the artifact of the request. -/
theorem Request.compileNormal_eq {key : UInt64} {artifact : Artifact}
    (request : Request compiler known key artifact) (distinct : NoCollision known)
    {form : NormalForm} (isRead : definition.IsRead) (normal : definition.normalize = .ok form)
    (isKnown : known (keyText definition form scope validation))
    (isKey : key = Cache.key definition form scope validation) :
    compiler.compileNormal definition form scope validation = .ok artifact := by
  have sameText := distinct _ _ request.isKnown isKnown (request.isKey.symm.trans isKey)
  exact compileNormal_eq_of_keyText_eq compiler request.isRead isRead request.normal normal
    sameText request.compiled

/-- Whether some answers to a definition admit every artifact that was given under
the key of the definition. -/
def Admits (compiler : Compiler) (known : String → Prop) (definition : Definition)
    (scope : Scope) (validation : Bool) (answers : Except Failure Artifact → Prop) : Prop :=
  ∀ form artifact, definition.normalize = .ok form →
    Request compiler known (key definition form scope validation) artifact →
      answers (.ok artifact)

/-- Without collisions only the answer of the compiler is to be admitted. -/
theorem admits_compile (distinct : NoCollision known) (isRead : definition.IsRead)
    (isKnown : ∀ form, definition.normalize = .ok form →
      known (keyText definition form scope validation)) :
    Admits compiler known definition scope validation
      (compiler.compile definition scope validation = ·) := by
  intro form artifact normal request
  rw [compiler.compile_of_normalize normal scope validation]
  exact request.compileNormal_eq distinct isRead normal (isKnown form normal) rfl

theorem sound_make (compiler : Compiler) (known : String → Prop) :
    Sound compiler known (make compiler) where
  compiler_eq := rfl
  entries := by
    intro key stored member
    cases member

namespace Sound

variable {cache : Cache}

theorem purge (sound : Sound compiler known cache) : Sound compiler known cache.purge where
  compiler_eq := sound.compiler_eq
  entries := by
    intro key stored member
    cases member

/-- Counting hits and misses does not concern the entries. -/
theorem count (sound : Sound compiler known cache) (hits misses : Nat) :
    Sound compiler known { cache with hits, misses } :=
  ⟨sound.compiler_eq, sound.entries⟩

theorem mem_of_lookup {entries : List (UInt64 × Stored)} {key : UInt64} {stored : Stored}
    (found : entries.lookup key = some stored) : (key, stored) ∈ entries := by
  induction entries with
  | nil => cases found
  | cons entry entries ih =>
    obtain ⟨first, value⟩ := entry
    rw [List.lookup_cons] at found
    by_cases same : key = first
    · subst same
      rw [beq_self_eq_true] at found
      cases found
      exact List.mem_cons_self
    · rw [beq_eq_false_iff_ne.mpr same] at found
      exact List.mem_cons_of_mem _ (ih found)

variable (sound : Sound compiler known cache)

include sound

/-- Looking a key up gives an entry of the cache and only reorders the entries. -/
theorem lookup (key : UInt64) :
    Sound compiler known (cache.lookup key).2 ∧
      ∀ stored, (cache.lookup key).1 = some stored →
        Nonempty (Request compiler known key stored.artifact) := by
  unfold Cache.lookup
  cases found : cache.entries.lookup key with
  | none =>
    refine ⟨sound, fun stored isStored => ?_⟩
    cases isStored
  | some stored =>
    have request := sound.entries key stored (mem_of_lookup found)
    refine ⟨⟨sound.compiler_eq, fun other value member => ?_⟩, fun other isStored => ?_⟩
    · rcases List.mem_cons.mp member with equal | member
      · cases equal
        exact request
      · exact sound.entries other value (List.mem_filter.mp member).1
    · cases isStored
      exact request

/-- Remembering the artifact of a request keeps a cache sound, whatever is
forgotten for it. -/
theorem insert {key : UInt64} {artifact : Artifact}
    (request : Request compiler known key artifact) :
    Sound compiler known (cache.insert key artifact).2 := by
  refine ⟨sound.compiler_eq, fun other value member => ?_⟩
  rcases List.mem_cons.mp (List.mem_of_mem_take member) with equal | member
  · cases equal
    exact ⟨request⟩
  · exact sound.entries other value (List.mem_filter.mp member).1

/-! ## Answers -/

variable {definition : Definition} {scope : Scope} {validation : Bool}

/-- Compiling a definition through a sound cache gives an admitted answer and leaves
the cache sound. -/
theorem compile_admitted {answers : Except Failure Artifact → Prop} (isRead : definition.IsRead)
    (isKnown : ∀ form, definition.normalize = .ok form →
      known (keyText definition form scope validation))
    (own : answers (compiler.compile definition scope validation))
    (admits : Admits compiler known definition scope validation answers) :
    answers ((cache.compile definition scope validation).1.map (·.artifact)) ∧
      Sound compiler known (cache.compile definition scope validation).2 := by
  cases normal : definition.normalize with
  | error found =>
    simp only [Cache.compile, Compiler.compile, normal] at own ⊢
    exact ⟨own, sound⟩
  | ok form =>
    rw [compiler.compile_of_normalize normal scope validation] at own
    obtain ⟨looked, answered⟩ := sound.lookup (key definition form scope validation)
    cases result : cache.lookup (key definition form scope validation) with
    | mk found next =>
      rw [result] at looked answered
      cases found with
      | some stored =>
        obtain ⟨request⟩ := answered stored rfl
        simp only [Cache.compile, normal, result]
        exact ⟨admits form _ normal request, looked.count _ _⟩
      | none =>
        obtain rfl : next.compiler = compiler := looked.compiler_eq
        have counted := looked.count next.hits (next.misses + 1)
        simp only [Cache.compile, normal, result]
        cases compiled : next.compiler.compileNormal definition form scope validation with
        | error failure =>
          rw [compiled] at own
          exact ⟨own, counted⟩
        | ok artifact =>
          rw [compiled] at own
          exact ⟨own, counted.insert ⟨definition, form, scope, validation, isRead, normal,
            isKnown form normal, rfl, compiled⟩⟩

/-- Compiling a definition through a sound cache gives the answer of the compiler
and leaves the cache sound. -/
theorem compile (distinct : NoCollision known) (isRead : definition.IsRead)
    (isKnown : ∀ form, definition.normalize = .ok form →
      known (keyText definition form scope validation)) :
    (cache.compile definition scope validation).1.map (·.artifact) =
        compiler.compile definition scope validation ∧
      Sound compiler known (cache.compile definition scope validation).2 := by
  obtain ⟨answer, kept⟩ := sound.compile_admitted isRead isKnown rfl
    (admits_compile distinct isRead isKnown)
  exact ⟨answer.symm, kept⟩

end Sound

end Cache

end QueryTree
