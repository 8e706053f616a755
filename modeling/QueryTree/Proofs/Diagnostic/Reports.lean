import QueryTree.Diagnostic.Failure
import QueryTree.Proofs.Diagnostic.Success

/-!
# What is reported

Which problems a computation can report, told from those of its steps.
-/

namespace QueryTree

/-- The families with a name. -/
def Family.named : List Family :=
  [.structuralViolation, .unsupportedConstruct, .scopeResolutionFailure, .malformedInput]

namespace Problem

/-- Whether a problem is more than a bare code. -/
def IsNamed : Problem → Prop
  | .marker _ => False
  | _ => True

/-- Whether the tree of a normal form can have a problem.  No spread of a normal form
has directives, and everything that can be selected is supported. -/
def IsOfTree : Problem → Prop
  | .marker _ => False
  | .unsupportedSpreadDirective _ _ => False
  | .unsupportedSelection _ => False
  | _ => True

/-- Whether a problem is that the schema lacks a name. -/
def IsLookup : Problem → Prop
  | .unknownField _ _ => True
  | .unknownType _ => True
  | _ => False

/-- Whether a part of a normal form can have a problem by itself, apart from the names
that are looked up for it. -/
def IsOfPart : Problem → Prop
  | .marker _ => False
  | .unsupportedSpreadDirective _ _ => False
  | .unsupportedSelection _ => False
  | .unknownField _ _ => False
  | .unknownType _ => False
  | _ => True

variable {problem : Problem}

/-- The problems of the families with a name are all but bare codes. -/
theorem family_mem_named : problem.family ∈ Family.named ↔ problem.IsNamed := by
  cases problem <;> simp [family, Family.named, IsNamed]

theorem IsOfTree.isNamed (ofTree : problem.IsOfTree) : problem.IsNamed := by
  cases problem with
  | marker code => exact ofTree
  | _ => exact trivial

theorem IsLookup.isOfTree (isLookup : problem.IsLookup) : problem.IsOfTree := by
  cases problem with
  | unknownField | unknownType => exact trivial
  | _ => exact isLookup.elim

theorem IsOfPart.isOfTree (ofPart : problem.IsOfPart) : problem.IsOfTree := by
  cases problem with
  | marker | unsupportedSpreadDirective | unsupportedSelection => exact ofPart
  | _ => exact trivial

theorem IsOfPart.not_isLookup (ofPart : problem.IsOfPart) : ¬ problem.IsLookup := by
  cases problem with
  | unknownField | unknownType => exact ofPart.elim
  | _ => exact id

end Problem

variable {α β : Type}

/-- Whether a computation only reports allowed problems. -/
def Reports (allowed : Problem → Prop) (result : Except Diagnostic α) : Prop :=
  ∀ found, result = .error found → allowed found.problem

namespace Reports

variable {allowed : Problem → Prop}

theorem ok (value : α) : Reports allowed (.ok value) := by
  intro found failed
  cases failed

theorem atPosition {problem : Problem} (isAllowed : allowed problem) (position : Position) :
    Reports allowed (.error (.atPosition problem position) : Except Diagnostic α) := by
  intro found failed
  cases failed
  exact isAllowed

theorem bind {first : Except Diagnostic α} {next : α → Except Diagnostic β}
    (ofFirst : Reports allowed first) (ofNext : ∀ value, Reports allowed (next value)) :
    Reports allowed (first >>= next) := by
  intro found failed
  rcases error_of_bind_eq_error failed with inFirst | ⟨value, _, inNext⟩
  · exact ofFirst found inFirst
  · exact ofNext value found inNext

theorem mapM {compute : α → Except Diagnostic β} {values : List α}
    (each : ∀ value ∈ values, Reports allowed (compute value)) :
    Reports allowed (values.mapM compute) := by
  induction values with
  | nil => exact ok _
  | cons value values ih =>
    rw [List.mapM_cons]
    exact bind (each value List.mem_cons_self) fun _ =>
      bind (ih (List.forall_mem_cons.mp each).2) fun _ => ok _

theorem forM {check : α → Except Diagnostic Unit} (each : ∀ value, Reports allowed (check value))
    (values : List α) : Reports allowed (values.forM check) := by
  induction values with
  | nil => exact ok _
  | cons value values ih =>
    exact bind (each value) fun _ => ih

theorem foldlM {step : β → α → Except Diagnostic β}
    (each : ∀ state value, Reports allowed (step state value)) (values : List α) (state : β) :
    Reports allowed (values.foldlM step state) := by
  induction values generalizing state with
  | nil => exact ok _
  | cons value values ih =>
    rw [List.foldlM_cons]
    exact bind (each state value) ih

theorem ite {condition : Prop} [Decidable condition] {left right : Except Diagnostic α}
    (ofLeft : Reports allowed left) (ofRight : Reports allowed right) :
    Reports allowed (if condition then left else right) := by
  split
  · exact ofLeft
  · exact ofRight

theorem named {result : Except Diagnostic α} (reports : Reports Problem.IsOfPart result) :
    Reports Problem.IsNamed result :=
  fun found failed => (reports found failed).isOfTree.isNamed

end Reports

end QueryTree
