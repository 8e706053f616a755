import QueryTree.Compile.Compiler
import QueryTree.Proofs.Build.Reference
import QueryTree.Proofs.Build.Validated
import QueryTree.Proofs.Normal.Distinct

/-!
# The slots of artifacts

Every reference in the tree of an artifact has exactly one initializer.  The other
way round every initializer is referred to, if the whole definition became a tree.
-/

namespace QueryTree

/-! ## Initializers -/

variable {parameters : List String} {scope : Scope} {definition : Definition}

/-- What fills a slot has its name, and reaches the fragment of the slot. -/
theorem Slot.resolve_parts {slot : Slot} {initializer : Initializer}
    (resolved : slot.resolve scope parameters = .ok initializer) :
    initializer.slot = slot.name ∧
      slot.access scope initializer.place parameters = .ok initializer.access := by
  unfold Slot.resolve at resolved
  split at resolved
  next => cases resolved
  next place _ =>
    split at resolved
    next => cases resolved
    next =>
      obtain ⟨access, isAccess, done⟩ := exists_of_bind_eq_ok resolved
      cases done
      exact ⟨rfl, isAccess⟩

/-- There is one initializer for each slot. -/
theorem slots_of_resolveSlots {slots : List Slot} {initializers : List Initializer}
    (resolved : resolveSlots slots scope parameters = .ok initializers) :
    initializers.map (·.slot) = slots.map (·.name) :=
  map_of_mapM_eq_ok resolved fun made => (Slot.resolve_parts made).1

/-! ## Compiling -/

/-- What an artifact was brought together from. -/
structure Artifact.AssembledFrom (definition : Definition) (form : NormalForm) (node : Root)
    (substitutions : List Initializer) (artifact : Artifact) : Prop where
  node : artifact.node = node
  substitutions : artifact.substitutions = substitutions
  arguments :
    (definition.kind.isOperation = true ∧
      definition.variableDefinitions.mapM ArgumentDefinition.ofVariable =
        .ok artifact.arguments) ∨
    (definition.kind = .fragment ∧
      form.variableNames.mapM (ArgumentDefinition.ofReference form.argumentDefinitions) =
        .ok artifact.arguments)

namespace Compiler

variable {compiler : Compiler} {definition : Definition} {scope : Scope} {validation : Bool}
  {artifact : Artifact}

theorem assemble_parts {form : NormalForm} {node : Root} {substitutions : List Initializer}
    (assembled : Artifact.assemble definition form node substitutions = .ok artifact) :
    artifact.AssembledFrom definition form node substitutions := by
  unfold Artifact.assemble at assembled
  split at assembled
  next isOperation =>
    split at assembled
    next => cases assembled
    next =>
      obtain ⟨arguments, made, done⟩ := exists_of_bind_eq_ok assembled
      cases done
      exact ⟨rfl, rfl, .inl ⟨isOperation, made⟩⟩
  next =>
    split at assembled
    next isFragment =>
      obtain ⟨arguments, made, done⟩ := exists_of_bind_eq_ok assembled
      cases done
      exact ⟨rfl, rfl, .inr ⟨isFragment, made⟩⟩
    next => cases assembled

/-- What an artifact was made from. -/
structure Parts (compiler : Compiler) (definition : Definition) (scope : Scope)
    (validation : Bool) (artifact : Artifact) where
  form : NormalForm
  parameters : Option (List String)
  normal : definition.normalize = .ok form
  areParameters : definition.parameters = .ok parameters
  built : form.definition.build compiler.schema (compiler.buildOptions validation) =
    .ok artifact.node
  resolved : resolveSlots form.slots scope (parameters.getD []) = .ok artifact.substitutions
  assembled : Artifact.assemble definition form artifact.node artifact.substitutions =
    .ok artifact

theorem compile_parts (compiled : compiler.compile definition scope validation = .ok artifact) :
    Nonempty (Parts compiler definition scope validation artifact) := by
  obtain ⟨form, normal, compiled⟩ := exists_of_bind_eq_ok compiled
  obtain ⟨parameters, areParameters, compiled⟩ := exists_of_bind_eq_ok compiled
  obtain ⟨node, built, compiled⟩ := exists_of_bind_eq_ok compiled
  obtain ⟨initializers, resolved, compiled⟩ := exists_of_bind_eq_ok compiled
  obtain ⟨rfl, rfl, _⟩ := assemble_parts (eq_ok_of_mapError compiled)
  exact ⟨form, parameters, eq_ok_of_mapError normal, eq_ok_of_mapError areParameters,
    eq_ok_of_mapError built, eq_ok_of_mapError resolved, eq_ok_of_mapError compiled⟩

/-- An artifact holds the tree of the normal form and the initializers of its
slots. -/
theorem exists_of_compile (compiled : compiler.compile definition scope validation = .ok artifact) :
    ∃ form, definition.normalize = .ok form ∧
      form.definition.build compiler.schema (compiler.buildOptions validation) =
        .ok artifact.node ∧
      artifact.substitutions.map (·.slot) = form.slots.map (·.name) := by
  obtain ⟨parts⟩ := compile_parts compiled
  exact ⟨parts.form, parts.normal, parts.built, slots_of_resolveSlots parts.resolved⟩

end Compiler

/-- Whether all of a definition becomes a tree: it is a fragment, or an operation
that is validated. -/
def Definition.IsWhole (definition : Definition) (validation : Bool) : Prop :=
  definition.kind = .fragment ∨ definition.kind.isOperation = true ∧ validation = true ∧
    Directive.find? generatedName definition.directives = none

theorem Definition.spreads_printed_of_build {schema : Schema} {options : BuildOptions} {root : Root}
    (built : definition.build schema options = .ok root)
    (whole : definition.IsWhole options.validation) :
    Selection.spreads definition.printed = Selection.spreads definition.selections := by
  by_cases isFragment : definition.kind = .fragment
  · rw [Definition.printed, if_pos isFragment]
  · obtain ⟨isOperation, validation, written⟩ := whole.resolve_left isFragment
    have validates : (definition.context schema options).validates = true := by
      simp [Definition.context, validation, written]
    obtain ⟨count, returned⟩ := Definition.build_eq_ok_iff.mp built
    have keeps := ((Build.root_filters validates rfl _ _ _ _).mp returned).1
    obtain ⟨below⟩ := Build.root_below (Definition.returns_of_build built)
    exact Definition.spreads_printed (keeps.root isOperation) (below.hasRoot isFragment) isFragment

theorem Definition.IsWhole.normalize {validation : Bool} (whole : definition.IsWhole validation)
    {form : NormalForm} (normal : definition.normalize = .ok form) :
    form.definition.IsWhole validation := by
  unfold Definition.IsWhole
  rw [Definition.kind_normalize normal, Definition.find?_normalize normal (by decide)]
  exact whole

/-- Every reference in an artifact has exactly one initializer.  If the definition
is a fragment or a validated operation, every initializer is referred to. -/
theorem Compiler.compile_slots {compiler : Compiler} {definition : Definition} {scope : Scope}
    {validation : Bool} {artifact : Artifact}
    (compiled : compiler.compile definition scope validation = .ok artifact) :
    (∀ slot ∈ artifact.node.references,
      artifact.substitutions.countP (·.slot = slot) = 1) ∧
    (artifact.substitutions.map (·.slot)).Nodup ∧
    (definition.IsWhole validation →
      ∀ initializer ∈ artifact.substitutions, initializer.slot ∈ artifact.node.references) := by
  obtain ⟨form, normal, built, slots⟩ := Compiler.exists_of_compile compiled
  have distinct : (artifact.substitutions.map (·.slot)).Nodup := by
    rw [slots]
    exact Definition.nodup_slots normal
  have known (slot : String) : slot ∈ artifact.substitutions.map (·.slot) ↔
      slot ∈ (Selection.spreads form.definition.selections).map (·.name) := by
    rw [slots, Definition.mem_slots normal]
  refine ⟨?_, distinct, ?_⟩
  · intro slot refers
    have spread := (Definition.mem_references built slot).mp refers
    have member := (known slot).mpr
      (List.map_subset _ form.definition.spreads_printed_subset spread)
    have once := List.count_eq_one_of_mem distinct member
    rw [List.count, List.countP_map] at once
    exact once
  · intro whole initializer member
    rw [Definition.mem_references built,
      Definition.spreads_printed_of_build built (whole.normalize normal), ← known]
    exact List.mem_map_of_mem member

/-! ## A query with fragments -/

namespace Sample

/-- A query that spreads a fragment twice, once with an argument, and another one in
between. -/
def cardQuery : Definition :=
  { viewerQuery with
    selections :=
      [.field (Build.bareField "viewer") [
        .spread ⟨"Card", [], .unknown⟩,
        .field { Build.bareField "feed" with arguments := [argument "first" (.int "3" .unknown)] }
          [.field (Build.bareField "edges") [.field (Build.bareField "node")
            [.spread ⟨"Feed_item", [], .unknown⟩,
              .spread ⟨"Card", [⟨argumentsName, [argument "size" (.int "1" .unknown)], .unknown⟩],
                .unknown⟩]]]]] }

end Sample

/-- The three slots of the query, two of them for one fragment, are initialized and
referred to. -/
theorem Compiler.cardQuery_slots : ∃ artifact,
    (Compiler.make Sample.viewerSchema .default).compile Sample.cardQuery
        ⟨[("Card", .imported), ("Feed", .imported)]⟩ true = .ok artifact ∧
      artifact.node.references = ["Feed_item", "Card_args1", "Card"] ∧
      (∀ slot ∈ artifact.node.references,
        artifact.substitutions.countP (·.slot = slot) = 1) ∧
      (artifact.substitutions.map (·.slot)).Nodup ∧
      ∀ initializer ∈ artifact.substitutions, initializer.slot ∈ artifact.node.references := by
  have refers : ((Compiler.make Sample.viewerSchema .default).compile Sample.cardQuery
      ⟨[("Card", .imported), ("Feed", .imported)]⟩ true).toOption.map (·.node.references) =
        some ["Feed_item", "Card_args1", "Card"] := by decide +kernel
  cases compiled : (Compiler.make Sample.viewerSchema .default).compile Sample.cardQuery
      ⟨[("Card", .imported), ("Feed", .imported)]⟩ true with
  | error failure =>
    rw [compiled] at refers
    cases refers
  | ok artifact =>
    rw [compiled] at refers
    obtain ⟨closed, distinct, referred⟩ := Compiler.compile_slots compiled
    exact ⟨artifact, rfl, Option.some.inj refers, closed, distinct,
      referred (.inr ⟨rfl, rfl, by decide⟩)⟩

end QueryTree
