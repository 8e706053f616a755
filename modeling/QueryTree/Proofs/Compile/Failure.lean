import QueryTree.Compile.Files
import QueryTree.Proofs.Build.Failure
import QueryTree.Proofs.Normal.Variables

/-!
# Failures of files and their report

A definition of a source fails to compile for a diagnostic, which belongs to a family
with a name, unless its generated fields have no end.  Every failure of a file stands
once in the report: what a diagnostic caused among the external errors, in the order
of the failures.
-/

namespace QueryTree

/-! ## Diagnostics -/

theorem Definition.parseAll_reports (source text : String) :
    Reports Problem.IsNamed (parseAll source text) := by
  intro found failed
  unfold parseAll at failed
  split at failed
  · cases failed
  · cases failed
    exact trivial

namespace Normal

theorem addSpread_reports (spread : Spread) (tables : Tables) :
    Reports Problem.IsNamed (addSpread spread tables) := by
  have ofMask (masked : Bool) (arguments : List Argument) :
      Reports Problem.IsNamed (spread.mask masked arguments) := by
    induction arguments generalizing masked with
    | nil => exact .ok _
    | cons argument arguments ih =>
      unfold Spread.mask
      refine .ite ?_ (.atPosition trivial _)
      split
      · exact ih _
      · exact .atPosition trivial _
  have ofMode : Reports Problem.IsNamed spread.mode := by
    unfold Spread.mode
    split
    · exact .ok _
    · exact .ite (.ok _) (.ite (.bind (ofMask _ _) fun _ => .ok _) (.atPosition trivial _))
    · exact .atPosition trivial _
  refine .bind ofMode fun mode => ?_
  cases mode with
  | plain masked | bound arguments => exact .ok _

theorem selections_reports (inner : List Selection) (tables : Tables) :
    Reports Problem.IsNamed (selections tables inner) := by
  induction inner using Selection.inductionAll generalizing tables with
  | nil =>
    rw [selections]
    exact .ok _
  | field head inner rest ofInner ofRest | inline head inner rest ofInner ofRest =>
    rw [selections, Normal.selection]
    exact .bind (.bind (ofInner _) fun _ => .ok _) fun _ => .bind (ofRest _) fun _ => .ok _
  | spread head rest ofRest =>
    rw [selections, Normal.selection]
    exact .bind (.bind (addSpread_reports head tables) fun _ => .ok _) fun _ =>
      .bind (ofRest _) fun _ => .ok _

end Normal

theorem Definition.normalize_reports (definition : Definition) :
    Reports Problem.IsNamed definition.normalize := by
  unfold normalize
  dsimp only
  split
  · exact .atPosition trivial _
  · exact .bind (Normal.selections_reports _ _) fun _ => .ok _

theorem Definition.parameters_reports (definition : Definition) :
    Reports Problem.IsNamed definition.parameters :=
  .ite (Directive.parameters_reports _).named (.ok _)

theorem resolveSlots_reports (slots : List Slot) (scope : Scope) (parameters : List String) :
    Reports Problem.IsNamed (resolveSlots slots scope parameters) := by
  refine .mapM fun slot _ => ?_
  unfold Slot.resolve
  split
  · exact .atPosition trivial _
  · refine .ite (.atPosition trivial _) (.bind ?_ fun _ => .ok _)
    refine .ite ?_ (.ok _)
    split
    · exact .ok _
    · exact .bind (.bind (Value.argument_reports _ _).named fun _ => .ok _) fun _ => .ok _

theorem Artifact.assemble_reports (definition : Definition) (form : NormalForm) (node : Root)
    (substitutions : List Initializer) :
    Reports Problem.IsNamed (assemble definition form node substitutions) := by
  have ofVariable (declared : VariableDefinition) :
      Reports Problem.IsNamed (ArgumentDefinition.ofVariable declared) := by
    unfold ArgumentDefinition.ofVariable
    split
    · exact .bind (Value.literal_reports _ _).named fun _ => .ok _
    · exact .ok _
  have ofReference (name : String) :
      Reports Problem.IsNamed (ArgumentDefinition.ofReference form.argumentDefinitions name) := by
    unfold ArgumentDefinition.ofReference
    split
    · unfold ArgumentDefinition.ofDeclaration
      split
      · refine .foldlM (fun argument entry => ?_) _ _
        refine .ite ?_ (.ite (.bind (Value.literal_reports _ _).named fun _ => .ok _) (.ok _))
        split
        · exact .ok _
        · exact .atPosition trivial _
      · exact .atPosition trivial _
    · exact .ok _
  refine .ite (.ite (.atPosition trivial _) ?_) (.ite ?_ (.atPosition trivial _))
  · exact .bind (.mapM fun declared _ => ofVariable declared) fun _ => .ok _
  · exact .bind (.mapM fun name _ => ofReference name) fun _ => .ok _

/-! ## Failures -/

namespace Failure

/-- Whether a failure is a diagnostic of a family with a name. -/
def IsExternal (failure : Failure) : Prop :=
  ∃ found, failure.diagnostic? = some found ∧ found.problem.family ∈ Family.named

/-- Whether a failure is a diagnostic or generated fields without end. -/
def IsCommon (failure : Failure) : Prop :=
  failure.diagnostic?.isSome = true ∨ failure = BuildError.unbounded.failure

theorem isExternal_of_diagnostic {context : List String} {found : Diagnostic}
    (named : found.problem.IsNamed) : IsExternal ⟨context, .diagnostic found⟩ :=
  ⟨found, rfl, Problem.family_mem_named.mpr named⟩

theorem IsExternal.isCommon {failure : Failure} (external : failure.IsExternal) :
    failure.IsCommon := by
  obtain ⟨found, isFound, _⟩ := external
  exact .inl (by rw [isFound]; rfl)

end Failure

namespace Definition

variable {definition : Definition} {form : NormalForm}

theorem headWellFormed_of_normalize (formed : definition.HeadWellFormed)
    (normal : definition.normalize = .ok form) : form.definition.HeadWellFormed := by
  obtain ⟨_, _, _, same, _⟩ := exists_of_normalize normal
  rw [same]
  exact formed

/-- The tree of a normal form fails to be built for expected reasons only. -/
theorem build_fails {schema : Schema} {options : BuildOptions} {error : BuildError}
    (formed : definition.HeadWellFormed) (normal : definition.normalize = .ok form)
    (failed : form.definition.build schema options = .error error) : error.IsExpected :=
  (failsBy_of_build failed).isExpected (headWellFormed_of_normalize formed normal)
    (spreads_of_normalize normal).1

end Definition

namespace Compiler

/-- Whether the tree of a definition comes to an end. -/
def Bounds (compiler : Compiler) (validation : Bool) (definition : Definition) : Prop :=
  ∀ form, definition.normalize = .ok form →
    form.definition.build compiler.schema (compiler.buildOptions validation) ≠ .error .unbounded

theorem orFail_fails {α : Type} {result : Except Diagnostic α} {failure : Failure}
    (reports : Reports Problem.IsNamed result) (failed : orFail result = .error failure) :
    failure.IsExternal := by
  cases result with
  | ok value => cases failed
  | error found =>
    cases failed
    exact Failure.isExternal_of_diagnostic (reports found rfl)

variable {compiler : Compiler} {definition : Definition} {scope : Scope} {validation : Bool}
  {failure : Failure}

/-- A definition of a source fails to compile for a diagnostic of a family with a
name, unless its tree has no end. -/
theorem compile_fails (formed : definition.WellFormed)
    (failed : compiler.compile definition scope validation = .error failure) :
    failure.IsExternal ∨
      ¬compiler.Bounds validation definition ∧ failure = BuildError.unbounded.failure := by
  unfold compile at failed
  rcases error_of_bind_eq_error failed with inNormal | ⟨form, isForm, failed⟩
  · exact .inl (orFail_fails definition.normalize_reports inNormal)
  unfold compileNormal at failed
  rcases error_of_bind_eq_error failed with inParameters | ⟨_, _, failed⟩
  · exact .inl (orFail_fails definition.parameters_reports inParameters)
  rcases error_of_bind_eq_error failed with inBuild | ⟨_, _, failed⟩
  · have normal : definition.normalize = .ok form := eq_ok_of_mapError isForm
    cases outcome : form.definition.build compiler.schema (compiler.buildOptions validation) with
    | ok root =>
      rw [outcome] at inBuild
      cases inBuild
    | error error =>
      rw [outcome] at inBuild
      cases inBuild
      have expected := Definition.build_fails formed.head normal outcome
      cases error with
      | diagnostic found => exact .inl (Failure.isExternal_of_diagnostic expected.isNamed)
      | unsupportedKind kind => exact expected.elim
      | unbounded => exact .inr ⟨fun bounds => bounds form normal outcome, rfl⟩
  rcases error_of_bind_eq_error failed with inSlots | ⟨_, _, failed⟩
  · exact .inl (orFail_fails (resolveSlots_reports _ _ _) inSlots)
  · exact .inl (orFail_fails (Artifact.assemble_reports _ _ _ _) failed)

/-- A definition fails in common ways only. -/
theorem compile_fails_commonly (formed : definition.WellFormed)
    (failed : compiler.compile definition scope validation = .error failure) :
    failure.IsCommon := by
  rcases compile_fails formed failed with external | ⟨_, unbounded⟩
  · exact external.isCommon
  · exact .inr unbounded

end Compiler

/-! ## The report -/

namespace Report

/-- Failures are added in their order, diagnostics apart from the others. -/
theorem foldl_add (failures : List FileFailure) (report : Report) :
    failures.foldl (fun report failure => report.add failure.failure) report =
      ⟨report.internal ++ (failures.map (·.failure)).filter (·.diagnostic?.isNone),
        report.external ++ failures.filterMap (·.failure.diagnostic?)⟩ := by
  induction failures generalizing report with
  | nil => simp
  | cons failure failures ih =>
    rw [List.foldl_cons, ih]
    unfold add
    cases found : failure.failure.diagnostic? with
    | none => simp [addInternal, found]
    | some diagnostic => simp [addExternal, found]

end Report

/-- Whether the counts, the failures and the report of a result tell of all that
came of the files, in their order. -/
structure FilesResult.Accounted (result : FilesResult) : Prop where
  compiled : result.compiled = result.artifacts.length
  failed : result.failed = result.failures.length
  failures : result.failures = result.files.flatMap (·.failures)
  external : result.report.external = result.failures.filterMap (·.failure.diagnostic?)
  internal : result.report.internal =
    (result.failures.map (·.failure)).filter (·.diagnostic?.isNone)
  common : ∀ failure ∈ result.failures, failure.failure.IsCommon

namespace SourceFile

theorem gather_accounted {files : List FileResult}
    (common : ∀ file ∈ files, ∀ failure ∈ file.failures, failure.failure.IsCommon) :
    (gather files).Accounted where
  compiled := rfl
  failed := rfl
  failures := rfl
  external := by
    simp only [gather, Report.foldl_add]
    rfl
  internal := by
    simp only [gather, Report.foldl_add]
    rfl
  common := by
    intro failure member
    obtain ⟨file, inFiles, inFile⟩ := List.mem_flatMap.mp member
    exact common file inFiles failure inFile

end SourceFile

end QueryTree
