import Mathlib.Data.Finset.Card
import Mathlib.Data.List.TakeWhile
import QueryTree.Proofs.Compile.CacheRun

/-!
# What a cache remembers

A session asks a cache for definitions and forgets all artifacts now and then, and
notes what is seen of every call.  The entries of the cache are determined by these
notes: of each key that was used since all artifacts were forgotten last, the entry
of its latest use, the most recent one first, as many as there is room for.
-/

namespace QueryTree

/-! ## The latest entry of each key -/

namespace Recency

variable {α β : Type} [DecidableEq α]

/-- The first entry of each key. -/
def latest : List (α × β) → List (α × β)
  | [] => []
  | entry :: entries => entry :: (latest entries).filter (·.1 ≠ entry.1)

/-- The keys that come before a key. -/
def before (key : α) (keys : List α) : Finset α := (keys.takeWhile (· ≠ key)).toFinset

variable {entries : List (α × β)} {key : α} {value : β}

theorem mem_latest : (key, value) ∈ latest entries ↔ entries.lookup key = some value := by
  induction entries with
  | nil => simp [latest]
  | cons entry entries ih =>
    obtain ⟨first, kept⟩ := entry
    by_cases same : key = first
    · subst same
      simp [latest, eq_comm]
    · have distinct : (key == first) = false := beq_eq_false_iff_ne.mpr same
      simp [latest, List.lookup_cons, distinct, same, ih]

theorem keys_latest_cons (entry : α × β) (entries : List (α × β)) :
    (latest (entry :: entries)).map (·.1) =
      entry.1 :: ((latest entries).map (·.1)).filter (· ≠ entry.1) := by
  rw [latest, List.map_cons, List.filter_map]
  rfl

theorem mem_keys_latest : key ∈ (latest entries).map (·.1) ↔ key ∈ entries.map (·.1) := by
  induction entries with
  | nil => simp [latest]
  | cons entry entries ih =>
    rw [keys_latest_cons, List.map_cons, List.mem_cons, List.mem_cons, List.mem_filter, ih]
    by_cases same : key = entry.1 <;> simp [same]

theorem nodup_latest (entries : List (α × β)) : ((latest entries).map (·.1)).Nodup := by
  induction entries with
  | nil => simp [latest]
  | cons entry entries ih =>
    rw [keys_latest_cons, List.nodup_cons]
    constructor
    · simp
    · exact ih.filter _

theorem length_latest (entries : List (α × β)) :
    (latest entries).length = (entries.map (·.1)).toFinset.card := by
  have sameKeys : (entries.map (·.1)).toFinset = ((latest entries).map (·.1)).toFinset := by
    ext key
    rw [List.mem_toFinset, List.mem_toFinset, mem_keys_latest]
  rw [sameKeys, List.toFinset_card_of_nodup (nodup_latest entries), List.length_map]

theorem before_cons_self (key : α) (keys : List α) : before key (key :: keys) = ∅ := by
  simp [before]

theorem before_cons_of_ne {first key : α} (other : first ≠ key) (keys : List α) :
    before key (first :: keys) = insert first (before key keys) := by
  simp [before, other]

/-- To leave out another key does not move the end of what comes before a key. -/
theorem before_filter {key other : α} (different : other ≠ key) (keys : List α) :
    before key (keys.filter (· ≠ other)) = (before key keys).erase other := by
  induction keys with
  | nil => simp [before]
  | cons first keys ih =>
    by_cases removed : first = other
    · subst removed
      rw [List.filter_cons_of_neg (by simp), ih, before_cons_of_ne different]
      simp
    · rw [List.filter_cons_of_pos (by simp [removed])]
      by_cases same : first = key
      · subst same
        rw [before_cons_self, before_cons_self]
        simp
      · rw [before_cons_of_ne same, before_cons_of_ne same, ih, Finset.erase_insert_of_ne removed]

theorem before_latest (key : α) (entries : List (α × β)) :
    before key ((latest entries).map (·.1)) = before key (entries.map (·.1)) := by
  induction entries with
  | nil => rfl
  | cons entry entries ih =>
    rw [keys_latest_cons, List.map_cons]
    by_cases same : entry.1 = key
    · rw [same, before_cons_self, before_cons_self]
    · rw [before_cons_of_ne same, before_cons_of_ne same, before_filter same, ih]
      ext other
      by_cases equal : other = entry.1 <;> simp [equal]

/-- A key of a list without repetitions is among the first ones if few others come before it. -/
theorem mem_take {keys : List α} (distinct : keys.Nodup) (key : α) (count : Nat) :
    key ∈ keys.take count ↔ key ∈ keys ∧ (before key keys).card < count := by
  induction keys generalizing count with
  | nil => simp
  | cons first keys ih =>
    rw [List.nodup_cons] at distinct
    cases count with
    | zero => simp
    | succ count =>
      rw [List.take_succ_cons, List.mem_cons, List.mem_cons, ih distinct.2]
      by_cases same : first = key
      · subst same
        simp [before_cons_self]
      · have fresh : first ∉ before key keys := fun member =>
          distinct.1 ((List.takeWhile_sublist _).subset (List.mem_toFinset.mp member))
        rw [before_cons_of_ne same, Finset.card_insert_of_notMem fresh]
        simp [Ne.symm same]

theorem isSome_lookup (entries : List (α × β)) (key : α) :
    (entries.lookup key).isSome ↔ key ∈ entries.map (·.1) := by
  rw [Option.isSome_iff_ne_none, ne_eq, List.lookup_eq_none_iff]
  simp [eq_comm (a := key)]

/-- The latest entry of a key is among the first ones if it is there and few other keys were used
after it. -/
theorem isSome_lookup_take_latest (entries : List (α × β)) (key : α) (count : Nat) :
    (((latest entries).take count).lookup key).isSome ↔
      key ∈ entries.map (·.1) ∧ (before key (entries.map (·.1))).card < count := by
  rw [isSome_lookup, List.map_take, mem_take (nodup_latest entries), mem_keys_latest, before_latest]

theorem lookup_of_lookup_take_latest {count : Nat}
    (found : ((latest entries).take count).lookup key = some value) :
    entries.lookup key = some value := by
  obtain ⟨front, back, split, -⟩ := List.lookup_eq_some_iff.mp found
  apply mem_latest.mp
  apply List.mem_of_mem_take (i := count)
  rw [split]
  simp

/-- To remove a key from some first entries costs at most one of them. -/
theorem take_filter_take (distinct : (entries.map (·.1)).Nodup) (key : α) (count : Nat) :
    ((entries.take (count + 1)).filter (·.1 ≠ key)).take count =
      (entries.filter (·.1 ≠ key)).take count := by
  induction entries generalizing count with
  | nil => simp
  | cons entry entries ih =>
    rw [List.map_cons, List.nodup_cons] at distinct
    by_cases same : entry.1 = key
    · -- The key is gone from here on: nothing else is removed.
      have absent : ∀ other ∈ entries, decide (other.1 ≠ key) = true := by
        intro other member
        rw [decide_eq_true_eq, ← same]
        intro equal
        exact distinct.1 (equal ▸ List.mem_map_of_mem member)
      have absentTake : ∀ other ∈ entries.take count, decide (other.1 ≠ key) = true :=
        fun other member => absent other (List.mem_of_mem_take member)
      rw [List.take_succ_cons, List.filter_cons_of_neg (by simp [same]),
        List.filter_cons_of_neg (by simp [same]), List.filter_eq_self.mpr absent,
        List.filter_eq_self.mpr absentTake, List.take_take, Nat.min_self]
    · rw [List.take_succ_cons, List.filter_cons_of_pos (by simp [same]),
        List.filter_cons_of_pos (by simp [same])]
      cases count with
      | zero => rfl
      | succ count => rw [List.take_succ_cons, List.take_succ_cons, ih distinct.2]

/-- Making an entry the latest one, when there is room for some. -/
theorem take_latest_cons (key : α) (value : β) (entries : List (α × β)) (count : Nat) :
    (latest ((key, value) :: entries)).take (count + 1) =
      (key, value) :: (((latest entries).take (count + 1)).filter (·.1 ≠ key)).take count := by
  rw [latest, List.take_succ_cons, take_filter_take (nodup_latest entries)]

/-- An entry that is found already needs no room. -/
theorem take_latest_cons_of_lookup {count : Nat}
    (found : ((latest entries).take count).lookup key = some value) :
    (latest ((key, value) :: entries)).take count =
      (key, value) :: ((latest entries).take count).filter (·.1 ≠ key) := by
  cases count with
  | zero => simp at found
  | succ count =>
    rw [take_latest_cons, List.take_of_length_le]
    obtain ⟨front, back, split, -⟩ := List.lookup_eq_some_iff.mp found
    have bound : front.length + (back.length + 1) ≤ count + 1 := by
      rw [← List.length_cons, ← List.length_append, ← split]
      exact List.length_take_le _ _
    rw [split, List.filter_append, List.filter_cons_of_neg (by simp), List.length_append]
    have := List.length_filter_le (·.1 ≠ key) front
    have := List.length_filter_le (·.1 ≠ key) back
    omega

end Recency

namespace Cache

/-! ## One call -/

/-- The key of a definition, unless it has no normal form. -/
def key? (definition : Definition) (scope : Scope) (validation : Bool) : Option UInt64 :=
  match definition.normalize with
  | .ok form => some (key definition form scope validation)
  | .error _ => none

/-- What a call can do to a cache. -/
inductive Compiles (cache : Cache) (definition : Definition) (scope : Scope) (validation : Bool) :
    Except Failure Stored → Cache → Prop where
  /-- The definition has no normal form. -/
  | refused {failure : Failure} (refusal : key? definition scope validation = none) :
      Compiles cache definition scope validation (.error failure) cache
  | hit {key : UInt64} {stored : Stored} (isKey : key? definition scope validation = some key)
      (found : cache.entries.lookup key = some stored) :
      Compiles cache definition scope validation (.ok stored)
        { cache with
          entries := (key, stored) :: cache.entries.filter (·.1 ≠ key)
          hits := cache.hits + 1 }
  | failed {key : UInt64} {failure : Failure} (isKey : key? definition scope validation = some key)
      (absent : cache.entries.lookup key = none) :
      Compiles cache definition scope validation (.error failure)
        { cache with misses := cache.misses + 1 }
  | inserted {key : UInt64} {artifact : Artifact}
      (isKey : key? definition scope validation = some key)
      (absent : cache.entries.lookup key = none) :
      Compiles cache definition scope validation (.ok ⟨cache.next, artifact⟩)
        { cache with
          entries := ((key, ⟨cache.next, artifact⟩) ::
            cache.entries.filter (·.1 ≠ key)).take cache.capacity
          misses := cache.misses + 1
          next := cache.next + 1 }

theorem isSome_key? (definition : Definition) (scope : Scope) (validation : Bool) :
    (key? definition scope validation).isSome = definition.normalize.isOk := by
  rw [key?]
  cases definition.normalize <;> rfl

theorem compiles (cache : Cache) (definition : Definition) (scope : Scope) (validation : Bool) :
    Compiles cache definition scope validation (cache.compile definition scope validation).1
      (cache.compile definition scope validation).2 := by
  cases normal : definition.normalize with
  | error found =>
    simp only [compile, normal]
    exact .refused (by rw [key?, normal])
  | ok form =>
    have isKey : key? definition scope validation =
        some (key definition form scope validation) := by rw [key?, normal]
    cases found : cache.entries.lookup (key definition form scope validation) with
    | some stored =>
      simp only [compile, normal, lookup, found]
      exact .hit isKey found
    | none =>
      simp only [compile, normal, lookup, found]
      cases cache.compiler.compileNormal definition form scope validation with
      | error failure => exact .failed isKey found
      | ok artifact => exact .inserted isKey found

namespace Compiles

variable {cache next : Cache} {definition : Definition} {scope : Scope} {validation : Bool}
variable {result : Except Failure Stored} {key : UInt64}
variable (called : Compiles cache definition scope validation result next)

include called

theorem isHit_iff (isKey : key? definition scope validation = some key) :
    next.hits = cache.hits + 1 ↔ (cache.entries.lookup key).isSome := by
  cases called with
  | refused refusal => simp [refusal] at isKey
  | hit isKey' found =>
    obtain rfl : _ = key := Option.some.inj (isKey'.symm.trans isKey)
    simp [found]
  | failed isKey' absent | inserted isKey' absent =>
    obtain rfl : _ = key := Option.some.inj (isKey'.symm.trans isKey)
    rw [absent]
    simp

theorem exists_of_isHit (isKey : key? definition scope validation = some key)
    (isHit : next.hits = cache.hits + 1) :
    ∃ stored, result = .ok stored ∧ cache.entries.lookup key = some stored := by
  cases called with
  | hit isKey' found =>
    obtain rfl : _ = key := Option.some.inj (isKey'.symm.trans isKey)
    exact ⟨_, rfl, found⟩
  | refused | failed | inserted => simp at isHit

theorem of_error {failure : Failure} (failed : result = .error failure) :
    next = { cache with
      misses := cache.misses + (key? definition scope validation).isSome.toNat } := by
  cases called with
  | refused refusal => simp [refusal]
  | failed isKey => simp [isKey]
  | hit | inserted => cases failed

end Compiles

/-! ## Sessions -/

/-- What is asked of a cache. -/
inductive Action where
  | compile (definition : Definition) (scope : Scope) (validation : Bool)
  | purge

/-- Whether an action compiles a definition with a normal form. -/
def Action.normalizes : Action → Bool
  | .compile definition _ _ => definition.normalize.isOk
  | .purge => false

/-- What is noted of a call: the key it is about, whether it was counted as a hit, and its
result. -/
structure Call where
  key? : Option UInt64
  isHit : Bool
  result : Except Failure Stored

/-- The key of a call that gave an artifact, which was found or inserted, with the artifact. -/
def Call.use? (call : Call) : Option (UInt64 × Stored) :=
  match call.key?, call.result with
  | some key, .ok stored => some (key, stored)
  | _, _ => none

/-- The key and the artifact of a call that inserted it. -/
def Call.insertion? (call : Call) : Option (UInt64 × Stored) :=
  if call.isHit then none else call.use?

/-- What is noted of an action. -/
inductive Event where
  | called (call : Call)
  | purged

/-- The calls of a history, the most recent one first. -/
def calls : List Event → List Call
  | [] => []
  | .called call :: past => call :: calls past
  | .purged :: past => calls past

/-- The calls since all artifacts were forgotten last, the most recent one first. -/
def callsSincePurge : List Event → List Call
  | [] => []
  | .called call :: past => call :: callsSincePurge past
  | .purged :: _ => []

/-- A cache with a history of what was asked of it, the most recent event first. -/
structure Session where
  cache : Cache
  past : List Event

namespace Session

/-- A session that begins with an empty cache. -/
def start (compiler : Compiler) : Session := ⟨make compiler, []⟩

/-- Perform an action and note it. -/
def step (session : Session) : Action → Session
  | .compile definition scope validation =>
    let (result, next) := session.cache.compile definition scope validation
    let isHit := next.hits = session.cache.hits + 1
    ⟨next, .called ⟨Cache.key? definition scope validation, isHit, result⟩ :: session.past⟩
  | .purge => ⟨session.cache.purge, .purged :: session.past⟩

/-- Perform actions in their order. -/
def run (session : Session) (actions : List Action) : Session := actions.foldl step session

/-- The uses since all artifacts were forgotten last. -/
def uses (session : Session) : List (UInt64 × Stored) :=
  (callsSincePurge session.past).filterMap Call.use?

/-- The keys that were found or inserted since all artifacts were forgotten last. -/
def usedKeys (session : Session) : List UInt64 := session.uses.map (·.1)

/-- The insertions since all artifacts were forgotten last. -/
def insertions (session : Session) : List (UInt64 × Stored) :=
  (callsSincePurge session.past).filterMap Call.insertion?

/-- The keys that were inserted since all artifacts were forgotten last. -/
def insertedKeys (session : Session) : List UInt64 := session.insertions.map (·.1)

/-- The serial numbers of all insertions. -/
def serials (session : Session) : List Nat :=
  ((calls session.past).filterMap Call.insertion?).map (·.2.serial)

/-- What a session keeps: the entries of the cache are determined by the history. -/
structure Kept (capacity : Nat) (session : Session) : Prop where
  capacity_eq : session.cache.capacity = capacity
  entries_eq : session.cache.entries = (Recency.latest session.uses).take capacity
  /-- The latest use of a key gave the artifact of its latest insertion. -/
  lookup_uses : ∀ key, session.uses.lookup key = session.insertions.lookup key
  serials_eq : session.serials = (List.range session.cache.next).reverse

variable {session : Session} {capacity : Nat}

theorem kept_start (compiler : Compiler) : (start compiler).Kept (make compiler).capacity where
  capacity_eq := rfl
  entries_eq := List.take_nil.symm
  lookup_uses := fun _ => rfl
  serials_eq := rfl

theorem Kept.purge (kept : session.Kept capacity) : (session.step .purge).Kept capacity where
  capacity_eq := kept.capacity_eq
  entries_eq := List.take_nil.symm
  lookup_uses := fun _ => rfl
  serials_eq := kept.serials_eq

/-- The session after a call. -/
theorem step_compile (session : Session) (definition : Definition) (scope : Scope)
    (validation : Bool) :
    ∃ result next, Compiles session.cache definition scope validation result next ∧
      session.step (.compile definition scope validation) =
        ⟨next, .called ⟨Cache.key? definition scope validation, next.hits = session.cache.hits + 1,
          result⟩ :: session.past⟩ :=
  ⟨_, _, session.cache.compiles definition scope validation, rfl⟩

section

variable (kept : session.Kept capacity)

include kept

theorem Kept.compile (definition : Definition) (scope : Scope) (validation : Bool) :
    (session.step (.compile definition scope validation)).Kept capacity := by
  obtain ⟨result, next, called, stepped⟩ := session.step_compile definition scope validation
  rw [stepped]
  cases called with
  | refused refusal =>
    simp only [refusal, Nat.left_eq_add, Nat.one_ne_zero, decide_false]
    exact ⟨kept.capacity_eq, kept.entries_eq, kept.lookup_uses, kept.serials_eq⟩
  | failed isKey absent =>
    simp only [isKey, Nat.left_eq_add, Nat.one_ne_zero, decide_false]
    exact ⟨kept.capacity_eq, kept.entries_eq, kept.lookup_uses, kept.serials_eq⟩
  | @hit key stored isKey found =>
    simp only [isKey, decide_true]
    rw [kept.entries_eq] at found
    refine ⟨kept.capacity_eq, ?_, fun other => ?_, kept.serials_eq⟩
    · dsimp only
      rw [kept.entries_eq]
      exact (Recency.take_latest_cons_of_lookup found).symm
    · change ((key, stored) :: session.uses).lookup other = session.insertions.lookup other
      rw [← kept.lookup_uses, List.lookup_cons]
      by_cases same : other = key
      · subst same
        rw [beq_self_eq_true, Recency.lookup_of_lookup_take_latest found]
      · rw [beq_eq_false_iff_ne.mpr same]
  | @inserted key artifact isKey absent =>
    simp only [isKey, Nat.left_eq_add, Nat.one_ne_zero, decide_false]
    refine ⟨kept.capacity_eq, ?_, fun other => ?_, ?_⟩
    · dsimp only
      rw [kept.entries_eq, kept.capacity_eq]
      cases capacity with
      | zero => rfl
      | succ capacity => exact (Recency.take_latest_cons ..).symm
    · change ((key, _) :: session.uses).lookup other = ((key, _) :: session.insertions).lookup other
      rw [List.lookup_cons, List.lookup_cons, kept.lookup_uses]
    · change session.cache.next :: session.serials = _
      rw [kept.serials_eq, List.range_succ, List.reverse_append]
      rfl

theorem Kept.step (action : Action) : (session.step action).Kept capacity := by
  cases action with
  | compile definition scope validation => exact kept.compile definition scope validation
  | purge => exact kept.purge

theorem Kept.run (actions : List Action) : (session.run actions).Kept capacity := by
  induction actions generalizing session with
  | nil => exact kept
  | cons action actions ih => exact ih (kept.step action)

/-- A key is used first when it is inserted. -/
theorem Kept.mem_usedKeys (key : UInt64) : key ∈ session.usedKeys ↔ key ∈ session.insertedKeys := by
  rw [usedKeys, insertedKeys, ← Recency.isSome_lookup, ← Recency.isSome_lookup, kept.lookup_uses]

theorem Kept.size_eq : session.cache.size = min capacity session.insertedKeys.toFinset.card := by
  have sameKeys : session.usedKeys.toFinset = session.insertedKeys.toFinset := by
    ext key
    rw [List.mem_toFinset, List.mem_toFinset, kept.mem_usedKeys]
  rw [size, kept.entries_eq, List.length_take, Recency.length_latest, ← sameKeys]
  rfl

/-- A key is found if it was inserted and few other keys were used after it. -/
theorem Kept.isSome_lookup_entries (key : UInt64) :
    (session.cache.entries.lookup key).isSome ↔
      key ∈ session.insertedKeys ∧ (Recency.before key session.usedKeys).card < capacity := by
  rw [kept.entries_eq, Recency.isSome_lookup_take_latest, ← kept.mem_usedKeys]
  rfl

/-- An entry that is found is the latest insertion under its key. -/
theorem Kept.lookup_insertions {key : UInt64} {stored : Stored}
    (found : session.cache.entries.lookup key = some stored) :
    session.insertions.lookup key = some stored := by
  rw [← kept.lookup_uses]
  rw [kept.entries_eq] at found
  exact Recency.lookup_of_lookup_take_latest found

end

/-! ## Counts -/

theorem step_counts (session : Session) (action : Action) :
    (session.step action).cache.hits + (session.step action).cache.misses =
      session.cache.hits + session.cache.misses + action.normalizes.toNat := by
  cases action with
  | purge => rfl
  | compile definition scope validation =>
    obtain ⟨result, next, called, stepped⟩ := session.step_compile definition scope validation
    rw [stepped, Action.normalizes, ← isSome_key? definition scope validation]
    cases called with
    | refused refusal => simp [refusal]
    | hit isKey | failed isKey | inserted isKey =>
      simp [isKey]
      omega

theorem run_counts (session : Session) (actions : List Action) :
    (session.run actions).cache.hits + (session.run actions).cache.misses =
      session.cache.hits + session.cache.misses + actions.countP Action.normalizes := by
  induction actions generalizing session with
  | nil => rfl
  | cons action actions ih =>
    change ((session.step action).run actions).cache.hits +
      ((session.step action).run actions).cache.misses = _
    rw [ih, step_counts, List.countP_cons]
    cases action.normalizes with
    | false => simp
    | true =>
      simp only [Bool.toNat_true, if_true]
      omega

/-! ## The next call -/

/-- A cache forgets what was used least recently.  After any actions, a call whose
definition has a normal form is a hit if its key was inserted since all artifacts
were forgotten last and there is room for the other keys that were used after it;
it gives the very artifact that was inserted.  A call that fails changes nothing
but the number of misses. -/
theorem run_recency (schema : Schema) (config : Config) (actions : List Action) :
    let session := (start (Compiler.make schema config)).run actions
    let room := (if config.cacheSize ≤ 0 then 1024 else config.cacheSize).toNat
    1 ≤ room ∧
      session.cache.hits + session.cache.misses = actions.countP Action.normalizes ∧
      session.cache.size = min room session.insertedKeys.toFinset.card ∧
      session.serials.Nodup ∧
      ∀ definition scope validation,
        let called := session.cache.compile definition scope validation
        let isHit := called.2.hits = session.cache.hits + 1
        (∀ form, definition.normalize = .ok form →
          let key := key definition form scope validation
          (isHit ↔ key ∈ session.insertedKeys ∧
            (Recency.before key session.usedKeys).card < room) ∧
          (isHit → ∃ stored, called.1 = .ok stored ∧
            session.insertions.lookup key = some stored)) ∧
        (∀ failure, called.1 = .error failure →
          called.2 = { session.cache with
            misses := session.cache.misses + definition.normalize.isOk.toNat }) := by
  intro session room
  have kept : session.Kept room := (kept_start (Compiler.make schema config)).run actions
  refine ⟨?_, ?_, kept.size_eq, ?_, fun definition scope validation => ?_⟩
  · simp only [room]
    split <;> omega
  · rw [run_counts]
    exact Nat.zero_add _
  · rw [kept.serials_eq, List.nodup_reverse]
    exact List.nodup_range
  · intro called isHit
    have compiles := session.cache.compiles definition scope validation
    refine ⟨fun form normal => ?_, fun failure failed => ?_⟩
    · intro key
      have isKey : Cache.key? definition scope validation = some key := by
        rw [Cache.key?, normal]
      constructor
      · rw [← kept.isSome_lookup_entries]
        exact compiles.isHit_iff isKey
      · intro hit
        obtain ⟨stored, given, found⟩ := compiles.exists_of_isHit isKey hit
        exact ⟨stored, given, kept.lookup_insertions found⟩
    · rw [← isSome_key? definition scope validation]
      exact compiles.of_error failed

/-- A fragment of one field. -/
def sampleFragment (name field : String) : Definition :=
  ⟨.fragment, name, "User", [], [], [.field (Build.bareField field) []], .unknown⟩

/-- A fragment is compiled and found again, fails to compile with another field, and is driven out
by another one where there is room for one artifact. -/
def sampleActions : List Action :=
  [.compile (sampleFragment "Profile" "name") .empty false,
    .compile (sampleFragment "Profile" "name") .empty false,
    .compile (sampleFragment "Profile" "age") .empty true,
    .compile (sampleFragment "Card" "name") .empty false,
    .compile (sampleFragment "Profile" "name") .empty false]

/-- The fragment is found under its second insertion. -/
theorem sampleActions_recency :
    let session := (start (Compiler.make sampleCompiler.schema sampleCompiler.config)).run
      sampleActions
    let called := session.cache.compile (sampleFragment "Profile" "name") .empty false
    session.cache.hits + session.cache.misses = 1 + 4 ∧
      session.cache.size = min 1 session.insertedKeys.toFinset.card ∧
      session.serials = [2, 1, 0] ∧ session.serials.Nodup ∧
      ∃ stored key, called.1 = .ok stored ∧ session.insertions.lookup key = some stored := by
  intro session called
  obtain ⟨-, counts, size, distinct, next⟩ :=
    run_recency sampleCompiler.schema sampleCompiler.config sampleActions
  refine ⟨counts.trans (by decide +kernel), size, by decide +kernel, distinct, ?_⟩
  have normalizes : (sampleFragment "Profile" "name").normalize.isOk := by decide +kernel
  cases normal : (sampleFragment "Profile" "name").normalize with
  | error found =>
    rw [normal] at normalizes
    cases normalizes
  | ok form =>
    have isHit : called.2.hits = session.cache.hits + 1 := by decide +kernel
    obtain ⟨stored, given, inserted⟩ := ((next _ .empty false).1 form normal).2 isHit
    exact ⟨stored, _, given, inserted⟩

end Session

end Cache

end QueryTree
