import QueryTree.Proofs.Build.Derived
import QueryTree.Proofs.Compile.Formal
import QueryTree.Proofs.Normal.Variables

/-!
# The variables of artifacts

The tree of an artifact and what fills its slots are made in different passes over
a definition, and its formal arguments in a third one.  They agree: the formal
arguments of a fragment are all variables that occur in the artifact, and a
variable is a substitution in the tree if it is one in what fills the slots.
-/

namespace QueryTree

/-- The values that an initializer passes on. -/
def Initializer.values (initializer : Initializer) : List ArgumentValue :=
  match initializer.access with
  | .lookup _ arguments => arguments.toList
  | .content _ => []

namespace Artifact

/-- The values anywhere in the tree of an artifact or in what fills its slots. -/
def values (artifact : Artifact) : List ArgumentValue :=
  artifact.node.values ++ artifact.substitutions.flatMap Initializer.values

/-- The variables anywhere in the tree of an artifact or in what fills its slots, each
with whether it is a substitution. -/
def variableUses (artifact : Artifact) : List (String × Bool) :=
  artifact.values.flatMap ArgumentValue.variableUses

end Artifact

/-! ## Where the values come from -/

/-- The values of an initializer come from the bindings of its slot. -/
theorem Slot.derived_of_resolve {slot : Slot} {scope : Scope} {parameters : List String}
    {initializer : Initializer} (resolved : slot.resolve scope parameters = .ok initializer) :
    ∀ value ∈ initializer.values, value.Derived parameters fun written =>
      ∃ arguments, slot.arguments = some arguments ∧ written = .object arguments .unknown := by
  have isAccess := (Slot.resolve_parts resolved).2
  unfold Initializer.values
  unfold Slot.access at isAccess
  split at isAccess
  next =>
    cases bound : slot.arguments with
    | none =>
      rw [bound] at isAccess
      rw [← Except.ok.inj isAccess]
      intro value member
      cases member
    | some arguments =>
      rw [bound] at isAccess
      obtain ⟨passed, isPassed, isAccess⟩ := exists_of_bind_eq_ok isAccess
      rw [← Except.ok.inj isAccess]
      cases made : (Value.object arguments .unknown).argument parameters with
      | error problem =>
        rw [made] at isPassed
        cases isPassed
      | ok argument =>
        rw [made] at isPassed
        cases isPassed
        intro value member
        rw [List.mem_singleton.mp member]
        exact .argument ⟨arguments, rfl, rfl⟩ made
  next =>
    rw [← Except.ok.inj isAccess]
    intro value member
    cases member

namespace Definition

variable {definition : Definition} {form : NormalForm}

/-- A normal form has the parameters of the definition. -/
theorem parameters_normalize (normal : definition.normalize = .ok form) :
    form.definition.parameters = definition.parameters := by
  unfold parameters Directive.parameters
  rw [kind_normalize normal, find?_normalize normal (by decide)]

end Definition

namespace Compiler

variable {compiler : Compiler} {definition : Definition} {scope : Scope} {validation : Bool}
  {artifact : Artifact}

namespace Parts

variable (parts : Parts compiler definition scope validation artifact)

include parts

theorem parameters_eq : artifact.node.parameters? = parts.parameters := by
  have ofForm := Definition.parameters_of_build parts.built
  rw [Definition.parameters_normalize parts.normal, parts.areParameters] at ofForm
  exact (Except.ok.inj ofForm).symm

/-- What the values of an artifact may come from: what the normal form writes and what
its slots bind. -/
def Writes (value : Value) : Prop :=
  parts.form.definition.Writes compiler.config.inputArgument value ∨
    ∃ slot ∈ parts.form.slots, ∃ arguments, slot.arguments = some arguments ∧
      value = .object arguments .unknown

/-- The values of an artifact come from the normal form with one list of parameters,
in the tree and in what fills the slots. -/
theorem derived : ∀ value ∈ artifact.values,
    value.Derived (artifact.node.parameters?.getD []) parts.Writes := by
  intro value member
  rcases List.mem_append.mp member with inNode | inSubstitutions
  · exact (Definition.build_derived parts.built value inNode).weaken fun _ => .inl
  · obtain ⟨initializer, isInitializer, inInitializer⟩ := List.mem_flatMap.mp inSubstitutions
    obtain ⟨slot, isSlot, resolved⟩ := exists_of_mapM_eq_ok parts.resolved isInitializer
    rw [parts.parameters_eq]
    exact (Slot.derived_of_resolve resolved value inInitializer).weaken
      fun _ bound => .inr ⟨slot, isSlot, bound⟩

/-- The variables of an artifact were written, and they are substitutions if they are
parameters of the tree. -/
theorem mem_variableUses {use : String × Bool} (member : use ∈ artifact.variableUses) :
    use.2 = (artifact.node.parameters?.getD []).contains use.1 ∧
      ∃ value, parts.Writes value ∧ use.1 ∈ value.variableNames := by
  obtain ⟨value, inArtifact, inValue⟩ := List.mem_flatMap.mp member
  exact (parts.derived value inArtifact).mem_variableUses inValue

end Parts

end Compiler

/-! ## Substitutions -/

/-- Whether a definition is a fragment that lists parameters in an argument of its
first `@relay`. -/
def Definition.ListsIn (definition : Definition) (argument : Argument) : Prop :=
  definition.kind = .fragment ∧
    ∃ relay, definition.directives.find? (·.name = "relay") = some relay ∧
      relay.arguments.find? (·.name = "variables") = some argument

/-- The texts of a list, in their order. -/
def Value.ListsTexts (value : Value) (texts : List String) : Prop :=
  ∃ items position, value = .list items position ∧
    List.Forall₂ (fun item text => ∃ block position, item = .string text block position) items texts

theorem Directive.listsTexts_of_parameterNames {argument : Argument} {names : List String}
    (listed : parameterNames argument = .ok names) : argument.value.ListsTexts names := by
  unfold parameterNames at listed
  split at listed
  next items position isList =>
    refine ⟨items, position, isList, (forall₂_of_mapM_eq_ok listed).imp fun item name named => ?_⟩
    unfold parameterName at named
    split at named
    next text block position =>
      cases named
      exact ⟨block, position, rfl⟩
    next => cases named
  next => cases listed

theorem Definition.listsIn_iff {definition : Definition} {argument : Argument} :
    definition.ListsIn argument ↔ definition.kind = .fragment ∧
      ((Directive.find? relayName definition.directives).bind fun relay =>
        Named.find? Directive.relayVariables relay.arguments) = some argument := by
  rw [Option.bind_eq_some_iff]
  rfl

/-- A definition has parameters if it lists them, and it has those that it lists. -/
theorem Definition.lists_of_parameters {definition : Definition} {listed : Option (List String)}
    (areListed : definition.parameters = .ok listed) :
    (listed.isSome = true ↔ ∃ argument, definition.ListsIn argument) ∧
      ∀ names, listed = some names →
        ∃ argument, definition.ListsIn argument ∧ argument.value.ListsTexts names := by
  unfold Definition.parameters at areListed
  split at areListed
  next isFragment =>
    unfold Directive.parameters at areListed
    split at areListed
    next notFound =>
      cases areListed
      have none (argument : Argument) : ¬ definition.ListsIn argument := by
        rw [listsIn_iff, notFound]
        simp
      simp [none]
    next argument found =>
      obtain ⟨names, named, areListed⟩ := exists_of_bind_eq_ok areListed
      cases areListed
      have lists : definition.ListsIn argument := listsIn_iff.mpr ⟨isFragment, found⟩
      constructor
      · exact ⟨fun _ => ⟨argument, lists⟩, fun _ => rfl⟩
      · rintro _ ⟨⟩
        exact ⟨argument, lists, Directive.listsTexts_of_parameterNames named⟩
  next notFragment =>
    cases areListed
    have none (argument : Argument) : ¬ definition.ListsIn argument :=
      fun lists => notFragment lists.1
    simp [none]

/-- The tree of an artifact and what fills its slots agree on what is a
substitution: the variables that the tree has as parameters.  It has parameters
exactly if it comes of a fragment with a list of them in its first `@relay`, and
then those of the list. -/
theorem Compiler.compile_substitutes {compiler : Compiler} {definition : Definition}
    {scope : Scope} {validation : Bool} {artifact : Artifact}
    (compiled : compiler.compile definition scope validation = .ok artifact) :
    (∀ use ∈ artifact.variableUses,
      use.2 = true ↔ ∃ names, artifact.node.parameters? = some names ∧ use.1 ∈ names) ∧
    (artifact.node.parameters?.isSome = true ↔ ∃ argument, definition.ListsIn argument) ∧
    ∀ names, artifact.node.parameters? = some names →
      ∃ argument, definition.ListsIn argument ∧ argument.value.ListsTexts names := by
  obtain ⟨parts⟩ := compile_parts compiled
  constructor
  · intro use member
    rw [(parts.mem_variableUses member).1]
    cases artifact.node.parameters? with
    | none => simp
    | some names => simp
  · rw [parts.parameters_eq]
    exact Definition.lists_of_parameters parts.areParameters

namespace Sample

/-- A fragment with one parameter and further variables: inside a fact, as the value
of a call and in what a spread binds. -/
def feedFragment : Definition where
  kind := .fragment
  name := "Feed"
  condition := "Viewer"
  variableDefinitions := []
  directives :=
    [⟨argumentDefinitionsName,
        [argument "first" (.object [argument "defaultValue" (.int "10" .unknown)] .unknown)],
        .unknown⟩,
      ⟨relayName,
        [argument "variables" (.list [.string "first" false .unknown] .unknown),
          argument "hint" (.list [.variable "theme" .unknown] .unknown)], .unknown⟩]
  selections :=
    [.field
      { Build.bareField "feed" with
        arguments :=
          [argument "first" (.variable "first" .unknown),
            argument "since" (.variable "since" .unknown)] }
      [.field (Build.bareField "edges") [.field (Build.bareField "node")
        [.spread ⟨"Card",
          [⟨argumentsName, [argument "size" (.list [.variable "first" .unknown,
            .variable "theme" .unknown] .unknown)], .unknown⟩], .unknown⟩]]]]
  position := .unknown

/-- What the fragment is compiled to. -/
def feedArtifact : Except Failure Artifact :=
  (Compiler.make viewerSchema .default).compile feedFragment ⟨[("Card", .imported)]⟩ true

end Sample

theorem Compiler.feedFragment_substitutes : ∃ artifact,
    Sample.feedArtifact = .ok artifact ∧
      artifact.variableUses = [("theme", false), ("first", true), ("since", false),
        ("first", true), ("theme", false)] ∧
      (∀ use ∈ artifact.variableUses,
        use.2 = true ↔ ∃ names, artifact.node.parameters? = some names ∧ use.1 ∈ names) ∧
      ∃ argument, Sample.feedFragment.ListsIn argument := by
  have uses : Sample.feedArtifact.toOption.map
      (fun artifact => (artifact.variableUses, artifact.node.parameters?)) =
        some ([("theme", false), ("first", true), ("since", false), ("first", true),
          ("theme", false)], some ["first"]) := by decide +kernel
  cases compiled : Sample.feedArtifact with
  | error failure =>
    rw [compiled] at uses
    cases uses
  | ok artifact =>
    rw [compiled] at uses
    obtain ⟨areUses, areParameters⟩ := Prod.mk.inj (Option.some.inj uses)
    obtain ⟨agree, lists, _⟩ := Compiler.compile_substitutes compiled
    refine ⟨artifact, rfl, areUses, agree, lists.mp ?_⟩
    rw [areParameters]
    rfl

/-! ## Formal arguments -/

theorem ArgumentDefinition.ofReference_origin {argument : ArgumentDefinition}
    {declarations : List Argument} {name : String}
    (made : ofReference declarations name = .ok argument) :
    argument.name = name ∧
      argument.origin = if name ∈ declarations.map (·.name) then .local else .root :=
  ⟨(isFormal_ofReference made).name, (isFormal_ofReference made).origin⟩

/-- Whether a definition declares an argument in `@argumentDefinitions`. -/
def Definition.Declares (definition : Definition) (name : String) : Prop :=
  ∃ directive ∈ definition.directives, directive.name = "argumentDefinitions" ∧
    name ∈ directive.arguments.map (·.name)

namespace Compiler.Parts

variable {compiler : Compiler} {definition : Definition} {scope : Scope} {validation : Bool}
  {artifact : Artifact} (parts : Parts compiler definition scope validation artifact)

include parts

theorem mem_argumentDefinitions (name : String) :
    name ∈ parts.form.argumentDefinitions.map (·.name) ↔ definition.Declares name := by
  rw [parts.argumentDefinitions_eq]
  unfold Definition.Declares Definition.declaredArguments
  simp only [List.mem_map, List.mem_flatMap, List.mem_filter]
  constructor
  · rintro ⟨argument, ⟨directive, ⟨isDirective, named⟩, isArgument⟩, rfl⟩
    exact ⟨directive, isDirective, of_decide_eq_true named, argument, isArgument, rfl⟩
  · rintro ⟨directive, isDirective, named, argument, isArgument, rfl⟩
    exact ⟨argument, ⟨directive, ⟨isDirective, decide_eq_true named⟩, isArgument⟩, rfl⟩

/-- The variables of what a fragment writes are variables of its normal form. -/
theorem variableNames_of_writes (isFragment : definition.kind = .fragment) {value : Value}
    (writes : parts.Writes value) : value.variableNames ⊆ parts.form.variableNames := by
  obtain ⟨names, values⟩ := Definition.notes_of_normalize parts.normal
  have ofNoted : ∀ value ∈ definition.noted, value.variableNames ⊆ parts.form.variableNames := by
    intro value member name isName
    rw [names]
    exact Tables.mem_foldl_note.mpr (.inr (List.mem_flatMap.mpr ⟨value, member, isName⟩))
  rcases writes with ofForm | ⟨slot, isSlot, arguments, bound, rfl⟩
  · rcases ofForm with written | ⟨isOperation, _⟩
    · exact ofNoted value (values written)
    · rw [Definition.kind_normalize parts.normal, isFragment] at isOperation
      cases isOperation
  · rw [Value.variableNames, Value.namesOfFields_eq_flatMap]
    intro name isName
    obtain ⟨argument, isArgument, inArgument⟩ := List.mem_flatMap.mp isName
    have isNoted := Definition.boundValues_of_slot parts.normal isSlot bound
      (List.mem_map_of_mem isArgument)
    exact ofNoted _ isNoted inArgument

end Compiler.Parts

/-- The formal arguments of a fragment are the variables of its normal form, each
once and in their order.  Every variable in the tree or in what fills its slots is
one of them, and an argument is local exactly if the fragment declares it. -/
theorem Compiler.compile_declares {compiler : Compiler} {definition : Definition}
    {scope : Scope} {validation : Bool} {artifact : Artifact}
    (isFragment : definition.kind = .fragment)
    (compiled : compiler.compile definition scope validation = .ok artifact) :
    (artifact.arguments.map (·.name)).Nodup ∧
    (∃ form, definition.normalize = .ok form ∧
      artifact.arguments.map (·.name) = form.variableNames) ∧
    (∀ use ∈ artifact.variableUses, use.1 ∈ artifact.arguments.map (·.name)) ∧
    ∀ argument ∈ artifact.arguments,
      (argument.origin = .local ↔ definition.Declares argument.name) ∧
      (argument.origin = .root ↔ ¬ definition.Declares argument.name) := by
  obtain ⟨parts⟩ := compile_parts compiled
  have made := parts.arguments_of_fragment isFragment
  have names : artifact.arguments.map (·.name) = parts.form.variableNames := by
    rw [← List.map_id parts.form.variableNames]
    exact map_of_mapM_eq_ok made fun made => (ArgumentDefinition.ofReference_origin made).1
  refine ⟨?_, ⟨parts.form, parts.normal, names⟩, fun use member => ?_, fun argument member => ?_⟩
  · rw [names, (Definition.notes_of_normalize parts.normal).1]
    exact Tables.nodup_foldl_note List.nodup_nil _
  · obtain ⟨_, value, writes, isName⟩ := parts.mem_variableUses member
    rw [names]
    exact parts.variableNames_of_writes isFragment writes isName
  · obtain ⟨name, _, made⟩ := exists_of_mapM_eq_ok made member
    obtain ⟨named, origin⟩ := ArgumentDefinition.ofReference_origin made
    rw [origin, named, ← parts.mem_argumentDefinitions]
    split
    next declared => simp [declared]
    next undeclared => simp [undeclared]

theorem Compiler.feedFragment_declares : ∃ artifact,
    Sample.feedArtifact = .ok artifact ∧
      artifact.arguments.map (fun argument => (argument.name, argument.origin)) =
        [("theme", .root), ("first", .local), ("since", .root)] ∧
      (artifact.arguments.map (·.name)).Nodup ∧
      ∀ use ∈ artifact.variableUses, use.1 ∈ artifact.arguments.map (·.name) := by
  have arguments : Sample.feedArtifact.toOption.map
      (fun artifact => artifact.arguments.map fun argument => (argument.name, argument.origin)) =
        some [("theme", .root), ("first", .local), ("since", .root)] := by decide +kernel
  cases compiled : Sample.feedArtifact with
  | error failure =>
    rw [compiled] at arguments
    cases arguments
  | ok artifact =>
    rw [compiled] at arguments
    obtain ⟨distinct, _, declared, _⟩ := Compiler.compile_declares rfl compiled
    exact ⟨artifact, rfl, Option.some.inj arguments, distinct, declared⟩

end QueryTree
