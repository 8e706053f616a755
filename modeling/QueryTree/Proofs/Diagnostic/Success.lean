import Mathlib.Data.List.Forall2

/-!
# Computations that succeed or fail

What is known of the steps of a computation from how it ended as a whole.
-/

namespace QueryTree

variable {ε α β : Type} {next : α → Except ε β} {first : Except ε α}

/-- Both steps of a computation that succeeds do. -/
theorem exists_of_bind_eq_ok {result : β} (succeeded : first >>= next = .ok result) :
    ∃ value, first = .ok value ∧ next value = .ok result := by
  cases first with
  | error found => cases succeeded
  | ok value => exact ⟨value, rfl, succeeded⟩

variable {result : Except ε α}

/-- A computation that succeeds does so whatever becomes of its errors. -/
theorem eq_ok_of_mapError {change : ε → β} {value : α}
    (succeeded : result.mapError change = .ok value) : result = .ok value := by
  cases result with
  | error found => cases succeeded
  | ok found =>
    cases succeeded
    rfl

theorem exists_of_isOk (succeeded : result.isOk = true) : ∃ value, result = .ok value := by
  cases result with
  | error found => cases succeeded
  | ok value => exact ⟨value, rfl⟩

variable {image : α → β}

theorem exists_of_toOption_map {value : β} (mapped : result.toOption.map image = some value) :
    ∃ found, result = .ok found ∧ image found = value := by
  cases result with
  | error found => cases mapped
  | ok found => exact ⟨found, rfl, Option.some.inj mapped⟩

/-- A computation gives a single value if its results have a single image. -/
theorem exists_singleton_of_map {result : Except ε (List α)} {value : β}
    (single : result.toOption.map (List.map image) = some [value]) :
    ∃ found, result = .ok [found] ∧ image found = value := by
  cases result with
  | error found => cases single
  | ok values =>
    obtain ⟨found, rfl, same⟩ := List.map_eq_singleton_iff.mp (Option.some.inj single)
    exact ⟨found, rfl, same⟩

variable {error : ε}

/-- One of the steps of a computation that fails does. -/
theorem error_of_bind_eq_error (failed : first >>= next = .error error) :
    first = .error error ∨ ∃ value, first = .ok value ∧ next value = .error error := by
  cases first with
  | error found =>
    cases failed
    exact .inl rfl
  | ok value => exact .inr ⟨value, rfl, failed⟩

theorem bind_eq_error_iff :
    first >>= next = .error error ↔
      first = .error error ∨ ∃ value, first = .ok value ∧ next value = .error error := by
  refine ⟨error_of_bind_eq_error, ?_⟩
  rintro (rfl | ⟨value, rfl, failed⟩)
  · rfl
  · exact failed

section Lists

variable {γ : Type} {values : List α} {results : List β} {compute : α → Except ε β}

/-- What is related item by item has a partner for each item. -/
theorem exists_of_forall₂ {relation : α → β → Prop}
    (related : List.Forall₂ relation values results) {value : α} (member : value ∈ values) :
    ∃ result ∈ results, relation value result := by
  induction related with
  | nil => cases member
  | cons first _ ih =>
    rcases List.mem_cons.mp member with rfl | member
    · exact ⟨_, List.mem_cons_self, first⟩
    · obtain ⟨result, inRest, related⟩ := ih member
      exact ⟨result, List.mem_cons_of_mem _ inRest, related⟩

variable (succeeded : values.mapM compute = .ok results)

include succeeded

/-- A computation on several values that succeeds gives a result for each. -/
theorem forall₂_of_mapM_eq_ok :
    List.Forall₂ (fun value result => compute value = .ok result) values results := by
  induction values generalizing results with
  | nil =>
    rw [List.mapM_nil] at succeeded
    cases succeeded
    exact .nil
  | cons value values ih =>
    rw [List.mapM_cons] at succeeded
    obtain ⟨first, isFirst, succeeded⟩ := exists_of_bind_eq_ok succeeded
    obtain ⟨others, areOthers, succeeded⟩ := exists_of_bind_eq_ok succeeded
    cases succeeded
    exact .cons isFirst (ih areOthers)

/-- Each of the results comes from one of the values. -/
theorem exists_of_mapM_eq_ok {result : β} (member : result ∈ results) :
    ∃ value ∈ values, compute value = .ok result :=
  exists_of_forall₂ (forall₂_of_mapM_eq_ok succeeded).flip member

/-- Each of the values has a result among them. -/
theorem mem_of_mapM_eq_ok {value : α} (member : value ∈ values) :
    ∃ result ∈ results, compute value = .ok result :=
  exists_of_forall₂ (forall₂_of_mapM_eq_ok succeeded) member

/-- What is told of the results is what is told of the values. -/
theorem map_of_mapM_eq_ok {ofValue : α → γ} {ofResult : β → γ}
    (each : ∀ {value result}, compute value = .ok result → ofResult result = ofValue value) :
    results.map ofResult = values.map ofValue := by
  have related := forall₂_of_mapM_eq_ok succeeded
  clear succeeded
  induction related with
  | nil => rfl
  | cons first _ ih => rw [List.map_cons, List.map_cons, each first, ih]

/-- What is collected from the results is what is collected from the values. -/
theorem flatMap_of_mapM_eq_ok {ofValue : α → List γ} {ofResult : β → List γ}
    (each : ∀ value ∈ values, ∀ result, compute value = .ok result →
      ofResult result = ofValue value) : results.flatMap ofResult = values.flatMap ofValue := by
  have related := forall₂_of_mapM_eq_ok succeeded
  clear succeeded
  induction related with
  | nil => rfl
  | cons first _ ih =>
    rw [List.flatMap_cons, List.flatMap_cons, each _ List.mem_cons_self _ first,
      ih (List.forall_mem_cons.mp each).2]

end Lists

variable {γ : Type}

/-! ## The first error -/

theorem map_eq_error_iff : (result.map image) = .error error ↔ result = .error error := by
  cases result with
  | error found | ok value => simp [Except.map]

/-- A run over a list fails for the first of its values that has a fault. -/
theorem mapM_eq_error_iff {compute : α → Except ε β} {fault? : α → Option ε} {values : List α}
    (each : ∀ value ∈ values, ∀ error, compute value = .error error ↔ fault? value = some error) :
    values.mapM compute = .error error ↔ values.findSome? fault? = some error := by
  induction values with
  | nil =>
    rw [List.mapM_nil, List.findSome?_nil]
    simp [Pure.pure, Except.pure]
  | cons value values ih =>
    have ofFirst := each value List.mem_cons_self
    have ofRest := ih (List.forall_mem_cons.mp each).2
    rw [List.mapM_cons, List.findSome?_cons]
    cases first : compute value with
    | error found =>
      rw [(ofFirst found).mp first]
      exact ⟨fun failed => congrArg some (Except.error.inj failed),
        fun isFound => congrArg Except.error (Option.some.inj isFound)⟩
    | ok result =>
      have none : fault? value = none := by
        refine Option.eq_none_iff_forall_ne_some.mpr fun found isFound => ?_
        rw [(ofFirst found).mpr isFound] at first
        cases first
      rw [none]
      refine Iff.trans ?_ ofRest
      exact map_eq_error_iff

/-- A run over a list gives the images of what another one gives, and fails with it. -/
theorem map_mapM {compute : α → Except ε β} {other : α → Except ε γ} {image : β → γ}
    {values : List α} (each : ∀ value ∈ values, (compute value).map image = other value) :
    (values.mapM compute).map (List.map image) = values.mapM other := by
  induction values with
  | nil => rfl
  | cons value values ih =>
    rw [List.mapM_cons, List.mapM_cons, ← each value List.mem_cons_self,
      ← ih (List.forall_mem_cons.mp each).2]
    cases compute value with
    | error found => rfl
    | ok first => cases values.mapM compute <;> rfl

/-! ## Computations that cannot fail -/

/-- Whether a computation succeeds. -/
def Succeeds (result : Except ε α) : Prop := ∃ value, result = .ok value

namespace Succeeds

theorem pure (value : α) : Succeeds (Pure.pure value : Except ε α) := ⟨value, rfl⟩

theorem bind {first : Except ε α} {next : α → Except ε β} (ofFirst : Succeeds first)
    (ofNext : ∀ value, Succeeds (next value)) : Succeeds (first >>= next) := by
  obtain ⟨value, rfl⟩ := ofFirst
  exact ofNext value

theorem mapM {compute : α → Except ε β} {values : List α}
    (each : ∀ value ∈ values, Succeeds (compute value)) : Succeeds (values.mapM compute) := by
  induction values with
  | nil => exact ⟨[], rfl⟩
  | cons value values ih =>
    rw [List.mapM_cons]
    exact bind (each value List.mem_cons_self) fun _ =>
      bind (ih (List.forall_mem_cons.mp each).2) fun _ => pure _

end Succeeds

end QueryTree
