import QueryTree.Proofs.Build.Typed

/-!
# Validation only refuses

A definition is accepted with validation exactly if it is accepted without and
keeps the structural rules, and both trees are the same.  What the rules apply to
is said without the build: every field in a selection set that the author wrote.
-/

namespace QueryTree

variable {α β : Type}

/-! ## Written selection sets -/

/-- Whether a selection set on a type is or encloses another one, at any depth. -/
inductive Schema.Encloses (schema : Schema) :
    SchemaType → List Selection → SchemaType → List Selection → Prop
  | here {type : SchemaType} {selections : List Selection} :
      Encloses schema type selections type selections
  | inside {type other parent : SchemaType} {selections inner found : List Selection}
      {selection : Selection} : selection ∈ selections →
      selection.Opens schema type other inner → Encloses schema other inner parent found →
      Encloses schema type selections parent found

/-- Whether a selection set belongs to a definition: to a fragment with all that it
encloses, to an operation if it stands below the root. -/
inductive Definition.Encloses (schema : Schema) (definition : Definition) :
    SchemaType → List Selection → Prop
  | fragment {type parent : SchemaType} {found : List Selection} :
      definition.kind = .fragment → schema.type? definition.condition = some type →
      schema.Encloses type definition.selections parent found →
      Encloses schema definition parent found
  | operation {type other parent : SchemaType} {selection : Selection}
      {inner found : List Selection} : schema.rootType? definition.kind = some type →
      selection ∈ definition.selections → selection.Opens schema type other inner →
      schema.Encloses other inner parent found → Encloses schema definition parent found

/-! ## Structural rules -/

/-- Whether a field of a type keeps the structural rules. -/
structure Field.Keeps (schema : Schema) (pattern : Bool) (parent : SchemaType) (head : Field)
    (inner : List Selection) (declared : SchemaField) : Prop where
  node : Rule.nodeField schema head declared parent = .ok ()
  pages : schema.isConnection declared.type = true →
    (declared.declares "first" = true ∨ declared.declares "last" = true) →
    Rule.connectionArguments head = .ok () ∧
      Rule.connectionSubfields schema head inner declared.type pattern = .ok ()

/-- Whether the fields of a selection set on a type keep the structural rules. -/
def Selection.Keep (schema : Schema) (pattern : Bool) (parent : SchemaType)
    (selections : List Selection) : Prop :=
  ∀ head inner declared, .field head inner ∈ selections →
    schema.field? parent head.name = some declared →
    head.Keeps schema pattern parent inner declared

/-- Whether a definition is a fragment that is a pattern. -/
def Definition.isPattern (definition : Definition) : Bool :=
  definition.kind = .fragment && Directive.isPattern definition.directives

/-- Whether a definition keeps the structural rules. -/
structure Definition.KeepsRules (schema : Schema) (definition : Definition) : Prop where
  root : definition.kind.isOperation = true → definition.selections.length = 1
  fields : ∀ parent selections, definition.Encloses schema parent selections →
    Selection.Keep schema definition.isPattern parent selections

/-- Whether the fields in all selection sets that one encloses keep the rules. -/
def Schema.KeepsWithin (schema : Schema) (pattern : Bool) (type : SchemaType)
    (selections : List Selection) : Prop :=
  ∀ parent found, schema.Encloses type selections parent found →
    Selection.Keep schema pattern parent found

/-- Whether a selection on a type keeps the rules, with all that it opens. -/
structure Selection.Keeps (schema : Schema) (pattern : Bool) (type : SchemaType)
    (selection : Selection) : Prop where
  field : ∀ head inner declared, selection = .field head inner →
    schema.field? type head.name = some declared → head.Keeps schema pattern type inner declared
  inside : ∀ other inner, selection.Opens schema type other inner →
    schema.KeepsWithin pattern other inner

variable {schema : Schema}

theorem Schema.keepsWithin_iff {pattern : Bool} {type : SchemaType} {selections : List Selection} :
    schema.KeepsWithin pattern type selections ↔
      ∀ selection ∈ selections, selection.Keeps schema pattern type := by
  constructor
  · intro keeps selection member
    refine ⟨?_, ?_⟩
    · rintro head inner declared rfl found
      exact keeps _ _ .here head inner declared member found
    · intro other inner opens parent found encloses
      exact keeps _ _ (.inside member opens encloses)
  · intro each parent found encloses
    cases encloses with
    | here => exact fun head inner declared member => (each _ member).field head inner declared rfl
    | inside member opens encloses => exact (each _ member).inside _ _ opens _ _ encloses

namespace Build

/-! ## Filtered builds -/

/-- Whether a build returns what another one does, provided that a condition holds. -/
def Filters (condition : Prop) (checked unchecked : Build α) : Prop :=
  ∀ count result, checked count = .ok result ↔ condition ∧ unchecked count = .ok result

namespace Filters

variable {condition further : Prop}

theorem refl (build : Build α) : Filters True build build :=
  fun _ _ => (iff_of_eq (true_and _)).symm

theorem of_iff {checked unchecked : Build α} (filters : Filters further checked unchecked)
    (iff : condition ↔ further) : Filters condition checked unchecked := by
  intro count result
  rw [filters, iff]

theorem throw (left right : BuildError) :
    Filters condition (throw left : Build α) (throw right) := by
  intro count result
  constructor
  · intro returned
    cases returned
  · rintro ⟨_, returned⟩
    cases returned

/-- What comes next may rely on the condition, and on the value that was
returned. -/
theorem bind {first other : Build α} {next continued : α → Build β}
    (before : Filters condition first other)
    (after : ∀ value, condition → Returns other value →
      Filters further (next value) (continued value)) :
    Filters (condition ∧ further) (first >>= next) (other >>= continued) := by
  intro count result
  constructor
  · intro returned
    obtain ⟨⟨value, between⟩, isFirst, isNext⟩ := exists_of_bind_eq_ok returned
    obtain ⟨holds, isOther⟩ := (before _ _).mp isFirst
    obtain ⟨holdsNext, isContinued⟩ := (after value holds ⟨_, _, isOther⟩ _ _).mp isNext
    refine ⟨⟨holds, holdsNext⟩, ?_⟩
    change (other count >>= fun result => continued result.1 result.2) = _
    rw [isOther]
    exact isContinued
  · rintro ⟨⟨holds, holdsNext⟩, returned⟩
    obtain ⟨⟨value, between⟩, isOther, isContinued⟩ := exists_of_bind_eq_ok returned
    change (first count >>= fun result => next result.1 result.2) = _
    rw [(before _ _).mpr ⟨holds, isOther⟩]
    exact (after value holds ⟨_, _, isOther⟩ _ _).mpr ⟨holdsNext, isContinued⟩

theorem bindSame {first : Build α} {next continued : α → Build β}
    (after : ∀ value, Returns first value → Filters condition (next value) (continued value)) :
    Filters condition (first >>= next) (first >>= continued) :=
  ((refl first).bind fun value _ returns => after value returns).of_iff
    (iff_of_eq (true_and _)).symm

/-- A build that goes on in the same way is filtered by its first part. -/
theorem thenSame {first other : Build α} (before : Filters condition first other)
    (next : α → Build β) : Filters condition (first >>= next) (other >>= next) :=
  (before.bind fun value _ _ => refl (next value)).of_iff (iff_of_eq (and_true _)).symm

theorem mapM {ofValue : α → Prop} {checked unchecked : α → Build β} {values : List α}
    (each : ∀ value ∈ values, Filters (ofValue value) (checked value) (unchecked value)) :
    Filters (∀ value ∈ values, ofValue value) (values.mapM checked) (values.mapM unchecked) := by
  induction values with
  | nil => exact (refl _).of_iff (by simp)
  | cons value values ih =>
    rw [List.mapM_cons, List.mapM_cons]
    have rest := ih (List.forall_mem_cons.mp each).2
    exact ((each value List.mem_cons_self).bind fun _ _ _ => rest.thenSame _).of_iff
      List.forall_mem_cons

/-- A rule in front of a build adds its verdict to the condition. -/
theorem rule {verdict : Rule.Verdict} {checked unchecked : Build α}
    (filters : Filters condition checked unchecked) :
    Filters (verdict = .ok () ∧ condition) (lift verdict >>= fun _ => checked) unchecked := by
  intro count result
  cases verdict with
  | ok accepted =>
    refine (filters count result).trans ?_
    simp
  | error found =>
    constructor
    · intro returned
      cases returned
    · rintro ⟨⟨accepted, _⟩, _⟩
      cases accepted

end Filters

/-! ## Nodes -/

end Build

/-- The context in which the structural rules are not checked. -/
def Context.unchecked (context : Context) : Context := { context with validates := false }

namespace Build

variable {context : Context}

theorem requisiteField_unchecked (depth : Nat) :
    requisiteField context.unchecked depth = requisiteField context depth := by
  induction depth with
  | zero => rfl
  | succ depth ih =>
    funext parent name origin
    rw [requisiteField, requisiteField, ih]
    rfl

/-- Generated fields do not depend on validation. -/
theorem generator_unchecked : generator context.unchecked = generator context :=
  requisiteField_unchecked _

variable {declared : SchemaField} {head : Field} {inner : List Selection} {parent type : SchemaType}
variable {selected : SelectedField} {definition : Definition} {schema : Schema}

theorem check_eq_ok_iff :
    check context parent head inner declared = .ok () ↔
      head.Keeps context.schema context.pattern parent inner declared := by
  constructor
  · intro accepted
    obtain ⟨_, node, accepted⟩ := exists_of_bind_eq_ok accepted
    refine ⟨node, fun connection pages => ?_⟩
    have pageable : isPageable context declared = true := by simp [isPageable, connection, pages]
    rw [if_pos pageable] at accepted
    obtain ⟨_, arguments, subfields⟩ := exists_of_bind_eq_ok accepted
    exact ⟨arguments, subfields⟩
  · intro keeps
    rw [check, keeps.node]
    change (if isPageable context declared = true then _ else _) = _
    split
    next pageable =>
      obtain ⟨connection, pages⟩ : context.schema.isConnection declared.type = true ∧
          (declared.declares "first" = true ∨ declared.declares "last" = true) := by
        simpa [isPageable] using pageable
      obtain ⟨arguments, subfields⟩ := keeps.pages connection pages
      rw [arguments]
      exact subfields
    next => rfl

/-- A field is refused if it breaks a rule or if the nodes below it are. -/
theorem field_filters {requisite generated : Bool} {condition : SchemaField → Prop}
    {below other : SchemaField → Build Children}
    (inside : ∀ declared, context.schema.field? parent head.name = some declared →
      Filters (condition declared) (below declared) (other declared)) :
    Filters (∀ declared, context.schema.field? parent head.name = some declared →
        head.Keeps context.schema context.pattern parent inner declared ∧ condition declared)
      (field context parent head inner ⟨requisite, generated, true⟩ below)
      (field context.unchecked parent head inner ⟨requisite, generated, false⟩ other) := by
  unfold field
  cases found : context.schema.field? parent head.name with
  | none =>
    rw [show context.unchecked.schema.field? parent head.name = none from found]
    exact .throw _ _
  | some declared =>
    rw [show context.unchecked.schema.field? parent head.name = some declared from found]
    refine ((inside declared found).thenSame _).rule.of_iff ?_
    rw [check_eq_ok_iff]
    simp

theorem fragment_filters {directives : List Directive} {condition : Prop}
    {below other : Build Children} (inside : Filters condition below other) :
    Filters condition (fragment context type directives below)
      (fragment context.unchecked type directives other) :=
  .bindSame fun _ _ => inside.thenSame _

/-! ## Selection sets -/

theorem fieldBuild_filters (validates : context.validates = true) {required : List String}
    (inside : ∀ type requisites,
      Filters (context.schema.KeepsWithin context.pattern type selected.selections)
        (children context type requisites selected.selections)
        (children context.unchecked type requisites selected.selections)) :
    Filters ((Selection.field selected.field selected.selections).Keeps context.schema
        context.pattern parent)
      (fieldBuild context parent required selected)
      (fieldBuild context.unchecked parent required selected) := by
  unfold fieldBuild
  rw [validates]
  refine (field_filters fun declared _ => inside declared.type _).of_iff ?_
  constructor
  · intro keeps declared found
    exact ⟨keeps.field _ _ declared rfl found, keeps.inside _ _ (.field found)⟩
  · intro each
    refine ⟨?_, ?_⟩
    · intro _ _ declared same found
      cases same
      exact (each declared found).1
    · intro other found opens
      cases opens with
      | field isDeclared => exact (each _ isDeclared).2

theorem fragmentBuild_filters {selection : Selection} (noField : selection.field? = none)
    (inside : ∀ type requisites,
      Filters (context.schema.KeepsWithin context.pattern type selection.inner)
        (children context type requisites selection.inner)
        (children context.unchecked type requisites selection.inner)) :
    Filters (selection.Keeps context.schema context.pattern parent)
      (fragmentBuild context parent selection)
      (fragmentBuild context.unchecked parent selection) := by
  cases selection with
  | field => cases noField
  | spread head =>
    refine (Filters.refl _).of_iff (iff_true_intro ⟨?_, ?_⟩)
    · intro head inner declared same
      cases same
    · intro other inner opens
      cases opens
  | inline head inner =>
    refine Filters.bindSame fun type returns =>
      ((fragment_filters (inside type _)).thenSame _).of_iff ?_
    have opens := opens_of_conditionType inner returns
    constructor
    · exact fun keeps => keeps.inside type inner opens
    · intro keeps
      refine ⟨?_, ?_⟩
      · intro head inner declared same
        cases same
      · intro other found isOpen
        obtain ⟨rfl, rfl⟩ := opens.unique isOpen
        exact keeps

/-- Validation refuses the nodes below a node of a type exactly if a field in a
selection set below it breaks a rule. -/
theorem children_filters (validates : context.validates = true) {requisites : Requisites}
    {selections : List Selection} :
    Filters (context.schema.KeepsWithin context.pattern type selections)
      (children context type requisites selections)
      (children context.unchecked type requisites selections) := by
  induction selections using Selection.setInduction generalizing type requisites with
  | step selections ih =>
    rw [children_eq, children_eq, generator_unchecked]
    refine (Filters.bind (.mapM ?_) fun _ _ _ => .bindSame fun _ _ =>
      Filters.thenSame (.mapM ?_) _).of_iff
        (Schema.keepsWithin_iff.trans Selection.forall_mem_iff)
    · intro selection member
      obtain ⟨member, noField⟩ := Selection.mem_of_mem_fragments member
      exact fragmentBuild_filters noField fun type requisites => ih _ member
    · intro selected member
      exact fieldBuild_filters validates fun type requisites =>
        ih _ (Selection.mem_fields.mp member)

/-! ## Definitions -/

theorem rootField_filters (validates : context.validates = true)
    (isOperation : definition.kind.isOperation = true) :
    Filters (definition.selections.length = 1) (rootField context definition)
      (rootField context.unchecked definition) := by
  unfold rootField
  rw [if_pos validates]
  refine (Filters.refl _).rule.of_iff ?_
  simp [Rule.rootFieldCount, isOperation]

theorem rootField_first (returns : Returns (rootField context.unchecked definition) selected)
    (one : definition.selections.length = 1) :
    definition.selections = [.field selected.field selected.selections] := by
  obtain ⟨selection, only⟩ := List.length_eq_one_iff.mp one
  unfold rootField at returns
  rw [only] at returns ⊢
  cases selection with
  | field head inner =>
    rw [returns.of_pure]
  | spread head | inline head inner => exact (Returns.not_throw returns).elim

theorem isPattern_of_rootType? (isRoot : schema.rootType? definition.kind = some type) :
    definition.isPattern = false := by
  unfold Definition.isPattern
  cases kind : definition.kind with
  | fragment =>
    rw [kind] at isRoot
    cases isRoot
  | _ => rfl

/-- The selection sets of an operation that selects only its root field are those
below the root field. -/
theorem keep_operation_iff (isRoot : schema.rootType? definition.kind = some type)
    (only : definition.selections = [.field head inner])
    (found : schema.field? type head.name = some declared) :
    (∀ parent selections, definition.Encloses schema parent selections →
      Selection.Keep schema definition.isPattern parent selections) ↔
    schema.KeepsWithin false declared.type inner := by
  rw [isPattern_of_rootType? isRoot]
  constructor
  · intro keep parent selections encloses
    exact keep _ _ (.operation isRoot (by rw [only]; exact List.mem_singleton_self _)
      (.field found) encloses)
  · intro keep parent selections encloses
    cases encloses with
    | fragment isFragment =>
      rw [isFragment] at isRoot
      cases isRoot
    | operation isOther member opens encloses =>
      cases isRoot.symm.trans isOther
      rw [only] at member
      cases List.mem_singleton.mp member
      cases opens with
      | field isDeclared =>
        cases found.symm.trans isDeclared
        exact keep _ _ encloses

theorem keep_fragment_iff (isFragment : definition.kind = .fragment)
    (found : schema.type? definition.condition = some type) :
    (∀ parent selections, definition.Encloses schema parent selections →
      Selection.Keep schema definition.isPattern parent selections) ↔
    schema.KeepsWithin (Directive.isPattern definition.directives) type definition.selections := by
  have pattern : definition.isPattern = Directive.isPattern definition.directives := by
    simp [Definition.isPattern, isFragment]
  rw [pattern]
  constructor
  · intro keep parent selections encloses
    exact keep _ _ (.fragment isFragment found encloses)
  · intro keep parent selections encloses
    cases encloses with
    | fragment _ isType encloses =>
      cases found.symm.trans isType
      exact keep _ _ encloses
    | operation isRoot =>
      rw [isFragment] at isRoot
      cases isRoot

theorem isOperation_of_rootType? (isRoot : schema.rootType? definition.kind = some type) :
    definition.kind.isOperation = true := by
  cases kind : definition.kind with
  | fragment | other code =>
    rw [kind] at isRoot
    cases isRoot
  | _ => rfl

variable (validates : context.validates = true)

include validates

/-- An operation goes from its root field to the nodes below it, with one rule that
does not depend on validation in between. -/
theorem operation_filters (pattern : context.pattern = false)
    (isRoot : context.schema.rootType? definition.kind = some type)
    {rule : SelectedField → SchemaField → Rule.Verdict}
    {requisites : SelectedField → SchemaField → Requisites}
    {result : SelectedField → SchemaField → Children → Build α} :
    Filters (definition.KeepsRules context.schema)
      (do
        let selected ← rootField context definition
        let declared ← declaredRootField context type selected.field
        lift (rule selected declared)
        let below ← children context declared.type (requisites selected declared)
          selected.selections
        result selected declared below)
      (do
        let selected ← rootField context.unchecked definition
        let declared ← declaredRootField context type selected.field
        lift (rule selected declared)
        let below ← children context.unchecked declared.type (requisites selected declared)
          selected.selections
        result selected declared below) := by
  have isOperation := isOperation_of_rootType? isRoot
  refine ((rootField_filters validates isOperation).bind fun selected one isFirst => ?_).of_iff
    ⟨fun keeps => ⟨keeps.root isOperation, keeps.fields⟩, fun keeps => ⟨fun _ => keeps.1, keeps.2⟩⟩
  refine .bindSame fun declared isDeclared => .bindSame fun _ _ => ?_
  refine ((children_filters validates).thenSame _).of_iff ?_
  rw [pattern]
  exact keep_operation_iff isRoot (rootField_first isFirst one) (declaredRootField_found isDeclared)

/-- The tree of a fragment is built with its own parameters and as a pattern if it
is one. -/
theorem fragmentRoot_filters (isFragment : definition.kind = .fragment) :
    Filters (definition.KeepsRules context.schema) (fragmentRoot context definition)
      (fragmentRoot context.unchecked definition) := by
  unfold fragmentRoot
  cases found : context.schema.type? definition.condition with
  | none =>
    rw [show context.unchecked.schema.type? definition.condition = none from found]
    exact .throw _ _
  | some type =>
    rw [show context.unchecked.schema.type? definition.condition = some type from found]
    refine Filters.bindSame fun listed _ => ?_
    let own : Context := { context with
      pattern := Directive.isPattern definition.directives
      parameters := context.parameters ++ listed.getD [] }
    have below : Filters _ (children own type
        (own.schema.requisites type definition.selections) definition.selections) _ :=
      children_filters (show own.validates = true from validates)
    refine ((fragment_filters below).thenSame _).of_iff ?_
    refine Iff.trans ⟨Definition.KeepsRules.fields, fun fields => ⟨fun isOperation => ?_, fields⟩⟩
      (keep_fragment_iff isFragment found)
    rw [isFragment] at isOperation
    cases isOperation

/-- Validation refuses a definition exactly if it breaks a rule. -/
theorem root_filters (pattern : context.pattern = false) (inputArgument : String)
    (definition : Definition) :
    Filters (definition.KeepsRules context.schema) (root context inputArgument definition)
      (root context.unchecked inputArgument definition) := by
  unfold root
  cases kind : definition.kind with
  | query =>
    refine Filters.bindSame fun type isType => ?_
    exact operation_filters validates pattern (by rw [kind]; exact rootType_returns isType)
  | mutation | subscription =>
    refine Filters.bindSame fun type isType => Filters.thenSame ?_ _
    exact operation_filters validates pattern (by rw [kind]; exact rootType_returns isType)
  | fragment => exact fragmentRoot_filters validates kind
  | other code => exact .throw _ _

end Build

/-- Validation accepts exactly those definitions which are accepted without it and
keep the structural rules, with the same tree; to generated definitions it makes
no difference. -/
theorem Definition.build_validation (schema : Schema) (options : BuildOptions)
    (definition : Definition) :
    (Directive.find? generatedName definition.directives = none → ∀ root,
      definition.build schema { options with validation := true } = .ok root ↔
        definition.build schema { options with validation := false } = .ok root ∧
          definition.KeepsRules schema) ∧
    (Directive.find? generatedName definition.directives ≠ none →
      definition.build schema { options with validation := true } =
        definition.build schema { options with validation := false }) := by
  constructor
  · intro written root
    rw [Definition.build_eq_ok_iff, Definition.build_eq_ok_iff]
    have validates :
        (definition.context schema { options with validation := true }).validates = true := by
      simp [Definition.context, written]
    have filters := Build.root_filters validates rfl options.inputArgument definition 0
    constructor
    · rintro ⟨count, built⟩
      obtain ⟨keeps, unchecked⟩ := (filters _).mp built
      exact ⟨⟨count, unchecked⟩, keeps⟩
    · rintro ⟨⟨count, built⟩, keeps⟩
      exact ⟨count, (filters _).mpr ⟨keeps, built⟩⟩
  · intro generated
    obtain ⟨directive, found⟩ := Option.ne_none_iff_exists'.mp generated
    unfold Definition.build Definition.context
    rw [found]
    rfl

/-! ## A feed without a limit -/

namespace Sample

/-- A query for the edges of a feed that does not say how many. -/
def endlessQuery : Definition :=
  { viewerQuery with
    selections :=
      [.field (Build.bareField "viewer") [.field (Build.bareField "feed")
        [.field (Build.bareField "edges") []]]] }

/-- The same query, exempt from validation. -/
def generatedQuery : Definition :=
  { endlessQuery with directives := [⟨generatedName, [], .unknown⟩] }

/-- The choices of a caller, with or without validation. -/
def options (validation : Bool) : BuildOptions := ⟨defaultInputArgument, validation, []⟩

end Sample

/-- Validation refuses the feed without a limit, unless the query is generated, and
accepts the one with a limit. -/
theorem Definition.endlessQuery_validation :
    (∃ root, Sample.viewerQuery.build Sample.viewerSchema (Sample.options true) = .ok root ∧
      Sample.viewerQuery.build Sample.viewerSchema (Sample.options false) = .ok root ∧
      Sample.viewerQuery.KeepsRules Sample.viewerSchema) ∧
    (∃ root, Sample.endlessQuery.build Sample.viewerSchema (Sample.options false) = .ok root ∧
      Sample.endlessQuery.build Sample.viewerSchema (Sample.options true) ≠ .ok root ∧
      ¬ Sample.endlessQuery.KeepsRules Sample.viewerSchema) ∧
    Sample.generatedQuery.build Sample.viewerSchema (Sample.options true) =
      Sample.generatedQuery.build Sample.viewerSchema (Sample.options false) := by
  refine ⟨?_, ?_, ?_⟩
  · have accepted : (Sample.viewerQuery.build Sample.viewerSchema
        (Sample.options true)).isOk = true := by decide +kernel
    cases built : Sample.viewerQuery.build Sample.viewerSchema (Sample.options true) with
    | error found =>
      rw [built] at accepted
      cases accepted
    | ok root =>
      exact ⟨root, rfl, ((Definition.build_validation Sample.viewerSchema (Sample.options true)
        Sample.viewerQuery).1 (by decide) root).mp built⟩
  · have accepted : (Sample.endlessQuery.build Sample.viewerSchema
        (Sample.options false)).isOk = true := by decide +kernel
    have refused : (Sample.endlessQuery.build Sample.viewerSchema
        (Sample.options true)).isOk = false := by decide +kernel
    cases built : Sample.endlessQuery.build Sample.viewerSchema (Sample.options false) with
    | error found =>
      rw [built] at accepted
      cases accepted
    | ok root =>
      have not_built :
          Sample.endlessQuery.build Sample.viewerSchema (Sample.options true) ≠ .ok root := by
        intro built
        rw [built] at refused
        cases refused
      refine ⟨root, rfl, not_built, fun keeps => not_built ?_⟩
      exact ((Definition.build_validation Sample.viewerSchema (Sample.options true)
        Sample.endlessQuery).1 (by decide) root).mpr ⟨built, keeps⟩
  · exact (Definition.build_validation Sample.viewerSchema (Sample.options true)
      Sample.generatedQuery).2 (by decide)

end QueryTree
