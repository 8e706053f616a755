import QueryTree.Compile.Compiler
import QueryTree.Document.Canonical
import QueryTree.Text.Digest

/-!
# Remembered artifacts

A cache remembers the artifacts of successful compilations, up to a number of them. The entry that
was used least recently makes room for a new one. Artifacts are found by a digest of all that a
compilation depends on: the canonical text of the definition, whether it is validated, and how the
module and the property of each of its fragments are bound. Every remembered artifact has a serial
number by which repeated answers can be recognized.
-/

namespace QueryTree

/-- An artifact with the serial number under which it was remembered. -/
structure Stored where
  serial : Nat
  artifact : Artifact
  deriving Repr

/-- A cache of the artifacts of a compiler. -/
structure Cache where
  compiler : Compiler
  /-- The entries by their keys, the most recently used one first. -/
  entries : List (UInt64 × Stored)
  hits : Nat
  misses : Nat
  /-- The serial number for the next artifact. -/
  next : Nat
  deriving Repr

namespace Cache

def make (compiler : Compiler) : Cache := ⟨compiler, [], 0, 0, 0⟩

/-- How many artifacts the cache remembers. -/
def size (cache : Cache) : Nat := cache.entries.length

/-- How many artifacts the cache can remember. -/
def capacity (cache : Cache) : Nat := cache.compiler.config.cacheSize.toNat

/-- Forget all artifacts. The counts stay. -/
def purge (cache : Cache) : Cache := { cache with entries := [] }

def boolText (value : Bool) : String := if value then "true" else "false"

/-- The part of a key that tells how a name is bound. -/
def bindingText (scope : Scope) (name : String) : String :=
  let binding := scope.binding? name
  "\x00" ++ name ++ "=" ++ boolText binding.isSome ++ ":" ++ (binding.getD .unknown).text

/-- The part of a key that tells how the fragment of a slot is bound. -/
def slotText (scope : Scope) (slot : Slot) : String :=
  match FragmentPlace.ofName? slot.fragment with
  | none => ""
  | some place => bindingText scope place.module ++ bindingText scope place.property

/-- All that the artifact of a definition depends on. -/
def keyText (definition : Definition) (form : NormalForm) (scope : Scope) (validation : Bool) :
    String :=
  definition.canonical ++ "\x00" ++ boolText validation ++
    String.join (form.slots.map (slotText scope))

def key (definition : Definition) (form : NormalForm) (scope : Scope) (validation : Bool) :
    UInt64 :=
  Text.digest (keyText definition form scope validation)

/-- Look a key up; the entry found becomes the most recent one. -/
def lookup (cache : Cache) (key : UInt64) : Option Stored × Cache :=
  match cache.entries.lookup key with
  | none => (none, cache)
  | some stored =>
    (some stored,
      { cache with entries := (key, stored) :: cache.entries.filter (·.1 ≠ key) })

/-- Remember an artifact as the most recent one, forgetting the least recent one if there are too
many. -/
def insert (cache : Cache) (key : UInt64) (artifact : Artifact) : Stored × Cache :=
  let stored := ⟨cache.next, artifact⟩
  let entries := (key, stored) :: cache.entries.filter (·.1 ≠ key)
  (stored, { cache with entries := entries.take cache.capacity, next := cache.next + 1 })

/-- The artifact of a definition, remembered or compiled. -/
def compile (cache : Cache) (definition : Definition) (scope : Scope) (validation : Bool) :
    Except Failure Stored × Cache :=
  match definition.normalize with
  | .error found => (.error (.ofDiagnostic found), cache)
  | .ok form =>
    let key := key definition form scope validation
    match cache.lookup key with
    | (some stored, cache) => (.ok stored, { cache with hits := cache.hits + 1 })
    | (none, cache) =>
      let cache := { cache with misses := cache.misses + 1 }
      match cache.compiler.compileNormal definition form scope validation with
      | .error failure => (.error failure, cache)
      | .ok artifact =>
        let (stored, cache) := cache.insert key artifact
        (.ok stored, cache)

def definitions (scope : Scope) (validation : Bool) : DefinitionCompiler Cache Stored :=
  fun definition cache => cache.compile definition scope validation

/-- The artifacts of the definitions of a source, remembered or compiled. -/
def compileSource (cache : Cache) (name text : String) (scope : Scope) (validation : Bool) :
    Except Failure (List Stored) × Cache :=
  (definitions scope validation).compileSource name text cache

end Cache

end QueryTree
