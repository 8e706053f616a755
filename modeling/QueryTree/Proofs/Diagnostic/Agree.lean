/-!
# Computations that agree

Two computations that may fail agree if both fail, for whatever reasons, or both
succeed with related results.  Where a program only reports positions, it agrees
with itself on inputs with other positions.  The rules follow the steps of such a
program.
-/

namespace QueryTree

variable {ε δ α β γ κ : Type}

/-- Both computations fail, or both succeed with related results. -/
inductive Agree (related : α → β → Prop) : Except ε α → Except δ β → Prop where
  | ok {left : α} {right : β} : related left right → Agree related (.ok left) (.ok right)
  | error (left : ε) (right : δ) : Agree related (.error left) (.error right)

namespace Agree

variable {related : α → β → Prop} {further : γ → κ → Prop}

theorem refl (result : Except ε α) : Agree Eq result result := by
  cases result with
  | ok value => exact .ok rfl
  | error found => exact .error found found

variable {left : Except ε α} {right : Except δ α}

theorem symm (agree : Agree Eq left right) : Agree Eq right left := by
  cases agree with
  | ok equal => exact .ok equal.symm
  | error left right => exact .error right left

theorem trans {ζ : Type} {middle : Except ζ α} (first : Agree Eq left middle)
    (second : Agree Eq middle right) : Agree Eq left right := by
  cases first with
  | ok equal =>
    cases second with
    | ok next => exact .ok (equal.trans next)
  | error left middle =>
    cases second with
    | error middle right => exact .error left right

/-- A computation that agrees with a successful one succeeds with the same
result. -/
theorem eq_ok {value : α} (agree : Agree Eq left right) (succeeded : left = .ok value) :
    right = .ok value := by
  cases agree with
  | ok equal => rw [← equal, ← Except.ok.inj succeeded]
  | error => cases succeeded

theorem pure {left : α} {right : β} (holds : related left right) :
    Agree related (Pure.pure left : Except ε α) (Pure.pure right : Except δ β) :=
  .ok holds

theorem bind {right : Except δ β} {leftNext : α → Except ε γ} {rightNext : β → Except δ κ}
    (before : Agree related left right)
    (after : ∀ leftValue rightValue, related leftValue rightValue →
      Agree further (leftNext leftValue) (rightNext rightValue)) :
    Agree further (left >>= leftNext) (right >>= rightNext) := by
  cases before with
  | ok holds => exact after _ _ holds
  | error left right => exact .error left right

/-- The rule for computations with the same result. -/
theorem bindSame {leftNext : α → Except ε γ} {rightNext : α → Except δ κ}
    (before : Agree Eq left right)
    (after : ∀ value, Agree further (leftNext value) (rightNext value)) :
    Agree further (left >>= leftNext) (right >>= rightNext) :=
  before.bind fun leftValue _ equal => equal ▸ after leftValue

theorem map {right : Except δ β} {leftMap : α → γ} {rightMap : β → κ}
    (before : Agree related left right)
    (after : ∀ leftValue rightValue, related leftValue rightValue →
      further (leftMap leftValue) (rightMap rightValue)) :
    Agree further (left.map leftMap) (right.map rightMap) := by
  cases before with
  | ok holds => exact .ok (after _ _ holds)
  | error left right => exact .error left right

theorem mapError {right : Except δ β} (leftMap : ε → γ) (rightMap : δ → κ)
    (before : Agree related left right) :
    Agree related (left.mapError leftMap) (right.mapError rightMap) := by
  cases before with
  | ok holds => exact .ok holds
  | error left right => exact .error _ _

theorem ite {condition : Prop} [Decidable condition] {left leftElse : Except ε α}
    {right rightElse : Except δ β} (yes : condition → Agree related left right)
    (no : ¬ condition → Agree related leftElse rightElse) :
    Agree related (if condition then left else leftElse)
      (if condition then right else rightElse) := by
  split
  case isTrue holds => exact yes holds
  case isFalse fails => exact no fails

variable {image : α → β} {items : List α}

/-- Going through a list and through its image agrees if this holds of each item. -/
theorem mapM {left : α → Except ε γ} {right : β → Except δ γ}
    (each : ∀ item ∈ items, Agree Eq (left item) (right (image item))) :
    Agree Eq (items.mapM left) ((items.map image).mapM right) := by
  induction items with
  | nil =>
    rw [List.map_nil, List.mapM_nil, List.mapM_nil]
    exact .pure rfl
  | cons item items ih =>
    rw [List.map_cons, List.mapM_cons, List.mapM_cons]
    refine (each item List.mem_cons_self).bindSame fun first => ?_
    refine (ih (List.forall_mem_cons.mp each).2).bindSame fun others => ?_
    exact .pure rfl

theorem foldlM {left : γ → α → Except ε γ} {right : γ → β → Except δ γ} (start : γ)
    (each : ∀ state, ∀ item ∈ items, Agree Eq (left state item) (right state (image item))) :
    Agree Eq (items.foldlM left start) ((items.map image).foldlM right start) := by
  induction items generalizing start with
  | nil => exact .pure rfl
  | cons item items ih =>
    rw [List.map_cons, List.foldlM_cons, List.foldlM_cons]
    refine (each start item List.mem_cons_self).bindSame fun next => ?_
    exact ih next fun state other member => each state other (List.mem_cons_of_mem _ member)

theorem forM {left : α → Except ε PUnit} {right : β → Except δ PUnit}
    (each : ∀ item ∈ items, Agree Eq (left item) (right (image item))) :
    Agree Eq (items.forM left) ((items.map image).forM right) := by
  induction items with
  | nil => exact .pure rfl
  | cons item items ih =>
    change Agree Eq (left item >>= fun _ => items.forM left)
      (right (image item) >>= fun _ => (items.map image).forM right)
    refine (each item List.mem_cons_self).bindSame fun _ => ?_
    exact ih (List.forall_mem_cons.mp each).2

end Agree

end QueryTree
