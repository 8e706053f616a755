import QueryTree.Build.Root
import QueryTree.Proofs.Diagnostic.Success

/-!
# What a build returns

A build that succeeds went through all of its steps.  Each of the functions that
make a node is read backwards once: from the node that it returned to the
declaration it was made from and to what was built below it.
-/

namespace QueryTree

namespace Build

variable {α β : Type}

/-- Whether a build returns a value from some count of fragments on. -/
def Returns (build : Build α) (value : α) : Prop :=
  ∃ before after, build before = .ok (value, after)

namespace Returns

theorem of_pure {value result : α} (returns : Returns (pure value) result) : result = value := by
  obtain ⟨_, _, returned⟩ := returns
  cases returned
  rfl

theorem of_bind {first : Build α} {next : α → Build β} {result : β}
    (returns : Returns (first >>= next) result) :
    ∃ value, Returns first value ∧ Returns (next value) result := by
  obtain ⟨before, after, returned⟩ := returns
  obtain ⟨⟨value, between⟩, isFirst, isNext⟩ := exists_of_bind_eq_ok returned
  exact ⟨value, ⟨before, between, isFirst⟩, ⟨between, after, isNext⟩⟩

theorem not_throw {error : BuildError} {result : α} : ¬ Returns (throw error) result := by
  intro ⟨_, _, returned⟩
  cases returned

/-- A build of several values returns one for each. -/
theorem forall₂_of_mapM {relation : α → β → Prop} {build : α → Build β} {values : List α}
    {results : List β}
    (each : ∀ value ∈ values, ∀ result, Returns (build value) result → relation value result)
    (returns : Returns (values.mapM build) results) : List.Forall₂ relation values results := by
  induction values generalizing results with
  | nil =>
    rw [List.mapM_nil] at returns
    rw [of_pure returns]
    exact .nil
  | cons value values ih =>
    rw [List.mapM_cons] at returns
    obtain ⟨first, isFirst, returns⟩ := of_bind returns
    obtain ⟨others, areOthers, returns⟩ := of_bind returns
    rw [of_pure returns]
    obtain ⟨ofFirst, ofOthers⟩ := List.forall_mem_cons.mp each
    exact .cons (ofFirst first isFirst) (ih ofOthers areOthers)

theorem of_mapM {build : α → Build β} {values : List α} {results : List β}
    (returns : Returns (values.mapM build) results) :
    List.Forall₂ (fun value result => Returns (build value) result) values results :=
  forall₂_of_mapM (fun _ _ _ => id) returns

end Returns

theorem lift_returns {result : Except Diagnostic α} {value : α}
    (returns : Returns (lift result) value) : result = .ok value := by
  cases result with
  | error found => exact (Returns.not_throw returns).elim
  | ok found =>
    rw [returns.of_pure]

/-! ## Nodes -/

variable {context : Context}

/-- The node of a declared field, after the structural rules. -/
def fieldNode (context : Context) (head : Field) (origin : Origin) (declared : SchemaField)
    (below : Build Children) : Build Child := do
  let children ← below
  let calls ← lift (calls context head declared)
  let directives ← lift (Directive.nodes context.parameters head.directives)
  let facts ← lift (Directive.relayFacts context.parameters head.directives)
  let metadata := (fieldFacts context declared origin).setAll facts
  return .field ⟨head.alias?, head.name, declared.type.name, calls, directives, metadata⟩
    children.shape children.items

/-- What the node of a field was made from. -/
structure FieldParts (context : Context) (parent : SchemaType) (head : Field)
    (selections : List Selection) (origin : Origin) (below : SchemaField → Build Children)
    (child : Child) where
  declared : SchemaField
  children : Children
  calls : Option (List Call)
  directives : Option (List DirectiveNode)
  facts : List (String × Literal)
  found : context.schema.field? parent head.name = some declared
  isChecked : origin.checked = true → check context parent head selections declared = .ok ()
  isBelow : Returns (below declared) children
  areCalls : Build.calls context head declared = .ok calls
  areDirectives : Directive.nodes context.parameters head.directives = .ok directives
  areFacts : Directive.relayFacts context.parameters head.directives = .ok facts
  isChild : child = .field ⟨head.alias?, head.name, declared.type.name, calls, directives,
    (fieldFacts context declared origin).setAll facts⟩ children.shape children.items

variable {child : Child} {head : Field} {below : Build Children} {directives : List Directive}
variable {node : FragmentNode} {type : SchemaType} {definition : Definition}
variable {inputArgument : String}

theorem field_parts {parent : SchemaType} {selections : List Selection} {origin : Origin}
    {below : SchemaField → Build Children}
    (returns : Returns (field context parent head selections origin below) child) :
    Nonempty (FieldParts context parent head selections origin below child) := by
  unfold field at returns
  cases found : context.schema.field? parent head.name with
  | none =>
    rw [found] at returns
    exact (Returns.not_throw returns).elim
  | some declared =>
    rw [found] at returns
    dsimp only at returns
    split at returns
    case' isTrue =>
      obtain ⟨_, passed, returns⟩ := returns.of_bind
      have isChecked : origin.checked = true → _ := fun _ => lift_returns passed
    case' isFalse unchecked =>
      have isChecked : origin.checked = true →
          check context parent head selections declared = .ok () :=
        fun checked => (unchecked checked).elim
    all_goals
      obtain ⟨children, isBelow, returns⟩ := returns.of_bind
      obtain ⟨calls, areCalls, returns⟩ := returns.of_bind
      obtain ⟨directives, areDirectives, returns⟩ := returns.of_bind
      obtain ⟨facts, areFacts, returns⟩ := returns.of_bind
      exact ⟨declared, children, calls, directives, facts, found, isChecked, isBelow,
        lift_returns areCalls, lift_returns areDirectives, lift_returns areFacts, returns.of_pure⟩

/-- What the node of a fragment was made from. -/
structure FragmentParts (context : Context) (type : SchemaType) (directives : List Directive)
    (below : Build Children) (node : FragmentNode) (children : Children) where
  id : String
  printed : Option (List DirectiveNode)
  facts : List (String × Literal)
  isBelow : Returns below children
  areFacts : Directive.relayFacts context.parameters directives = .ok facts
  arePrinted : Directive.nodes context.parameters directives = .ok printed
  isNode : node = ⟨context.name, type.name, id, printed,
    (Metadata.empty.mark type.isAbstract "isAbstract").setAll facts⟩

variable {children : Children}

theorem fragment_parts
    (returns : Returns (fragment context type directives below) (node, children)) :
    Nonempty (FragmentParts context type directives below node children) := by
  obtain ⟨id, _, returns⟩ := returns.of_bind
  obtain ⟨_, isBelow, returns⟩ := returns.of_bind
  obtain ⟨facts, areFacts, returns⟩ := returns.of_bind
  obtain ⟨printed, arePrinted, returns⟩ := returns.of_bind
  cases returns.of_pure
  exact ⟨id, printed, facts, isBelow, lift_returns areFacts, lift_returns arePrinted, rfl⟩

theorem fragment_returns
    (returns : Returns (fragment context type directives below) (node, children)) :
    Returns below children ∧ node.type = type.name := by
  obtain ⟨parts⟩ := fragment_parts returns
  exact ⟨parts.isBelow, by rw [parts.isNode]⟩

theorem innerFragment_parts
    (returns : Returns (innerFragment context type directives below) child) :
    ∃ node children, Nonempty (FragmentParts context type directives below node children) ∧
      child = .fragment node children.shape children.items := by
  obtain ⟨⟨node, children⟩, isFragment, returns⟩ := returns.of_bind
  exact ⟨node, children, fragment_parts isFragment, returns.of_pure⟩

theorem arrayOf_items (flattened : Bool) (fields fragments : List Child) :
    (arrayOf flattened fields fragments).items = fields ++ fragments := by
  unfold arrayOf
  split
  next none => rw [none]; rfl
  next => rfl

/-! ## Roots -/

theorem rootField_head {selected : SelectedField}
    (returns : Returns (rootField context definition) selected) :
    (Selection.fields definition.selections).head? = some selected := by
  unfold rootField at returns
  split at returns
  case h_1 =>
    dsimp only at returns
    split at returns
    case' isTrue => obtain ⟨_, _, returns⟩ := returns.of_bind
    all_goals exact (Returns.not_throw returns).elim
  case h_2 first others isFirst =>
    dsimp only at returns
    split at returns
    case' isTrue => obtain ⟨_, _, returns⟩ := returns.of_bind
    all_goals rw [isFirst, returns.of_pure, List.head?_cons]

theorem rootType_returns {found : Option SchemaType}
    (returns : Returns (rootType found definition) type) : found = some type := by
  unfold rootType at returns
  split at returns
  · rw [returns.of_pure]
  · exact (Returns.not_throw returns).elim

theorem declaredRootField_found {declared : SchemaField}
    (returns : Returns (declaredRootField context type head) declared) :
    context.schema.field? type head.name = some declared := by
  unfold declaredRootField at returns
  split at returns
  next found isFound =>
    rw [returns.of_pure]
    exact isFound
  next => exact (Returns.not_throw returns).elim

/-- What the tree of a query was made from. -/
structure QueryParts (context : Context) (definition : Definition) (root : Root) where
  type : SchemaType
  selected : SelectedField
  declared : SchemaField
  children : Children
  facts : List (String × Literal)
  calls : Option (List Call)
  directives : Option (List DirectiveNode)
  isType : context.schema.queryType? = some type
  isSelected : (Selection.fields definition.selections).head? = some selected
  found : context.schema.field? type selected.field.name = some declared
  isBelow : Returns (Build.children context declared.type
    (context.schema.requisites declared.type selected.selections) selected.selections) children
  areCalls : queryCalls context selected.field declared = .ok (facts, calls)
  areDirectives : Directive.nodes context.parameters
    (definition.directives ++ selected.field.directives) = .ok directives
  isRoot : root = .query ⟨definition.name, declared.type.name, selected.field.name, calls,
    directives, ((Metadata.empty.mark declared.type.isList "isPlural").mark
      declared.type.isAbstract "isAbstract").setAll facts⟩ children

theorem query_parts {root : Root} (returns : Returns (query context definition) root) :
    Nonempty (QueryParts context definition root) := by
  obtain ⟨type, isType, returns⟩ := returns.of_bind
  obtain ⟨selected, isSelected, returns⟩ := returns.of_bind
  obtain ⟨declared, isDeclared, returns⟩ := returns.of_bind
  obtain ⟨_, _, returns⟩ := returns.of_bind
  obtain ⟨children, isBelow, returns⟩ := returns.of_bind
  obtain ⟨⟨facts, calls⟩, areCalls, returns⟩ := returns.of_bind
  obtain ⟨directives, areDirectives, returns⟩ := returns.of_bind
  exact ⟨type, selected, declared, children, facts, calls, directives, rootType_returns isType,
    rootField_head isSelected, declaredRootField_found isDeclared, isBelow, lift_returns areCalls,
    lift_returns areDirectives, returns.of_pure⟩

/-- What the node of a mutation or a subscription was made from. -/
structure OperationParts (context : Context) (inputArgument : String) (type : SchemaType)
    (clientId : String) (definition : Definition) (head : OperationNode) (children : Children)
    where
  selected : SelectedField
  declared : SchemaField
  directives : Option (List DirectiveNode)
  isSelected : (Selection.fields definition.selections).head? = some selected
  found : context.schema.field? type selected.field.name = some declared
  isBelow : Returns (Build.children context declared.type
    ((context.schema.requisites declared.type selected.selections).addIf
      (context.schema.hasField declared.type clientId) clientId) selected.selections) children
  areDirectives : Directive.nodes context.parameters
    (definition.directives ++ selected.field.directives) = .ok directives
  isHead : head = ⟨definition.name, declared.type.name,
    some [⟨selected.field.name, .empty, .ofVariable context.parameters inputArgument⟩], directives,
    .ofList ((declared.arguments.take 1).map fun argument =>
      ("inputType", .string argument.type.text))⟩

theorem operation_parts {clientId : String} {head : OperationNode}
    (returns : Returns (operation context inputArgument type clientId definition)
      (head, children)) :
    Nonempty (OperationParts context inputArgument type clientId definition head children) := by
  obtain ⟨selected, isSelected, returns⟩ := returns.of_bind
  obtain ⟨declared, isDeclared, returns⟩ := returns.of_bind
  obtain ⟨_, _, returns⟩ := returns.of_bind
  obtain ⟨below, isBelow, returns⟩ := returns.of_bind
  obtain ⟨directives, areDirectives, returns⟩ := returns.of_bind
  cases returns.of_pure
  exact ⟨selected, declared, directives, rootField_head isSelected,
    declaredRootField_found isDeclared, isBelow, lift_returns areDirectives, rfl⟩

/-- The tree of a fragment, with parameters if it lists any. -/
def fragmentTree (head : FragmentNode) (children : Children) : Option (List String) → Root
  | none => .fragment head children
  | some parameters =>
    .createFragment { head with metadata := head.metadata.set "isTrackingEnabled" (.bool true) }
      children parameters

/-- What a fragment definition is built in. -/
def fragmentContext (context : Context) (definition : Definition)
    (listed : Option (List String)) : Context :=
  { context with
    pattern := Directive.isPattern definition.directives
    parameters := context.parameters ++ listed.getD [] }

/-- What the tree of a fragment was made from. -/
structure FragmentRootParts (context : Context) (definition : Definition) (root : Root) where
  type : SchemaType
  listed : Option (List String)
  head : FragmentNode
  children : Children
  isType : context.schema.type? definition.condition = some type
  areListed : Directive.parameters definition.directives = .ok listed
  isFragment : Returns
    (fragment (fragmentContext context definition listed) type definition.directives
      (Build.children (fragmentContext context definition listed) type
        (context.schema.requisites type definition.selections) definition.selections))
    (head, children)
  isRoot : root = fragmentTree head children listed

theorem fragmentRoot_parts {root : Root}
    (returns : Returns (fragmentRoot context definition) root) :
    Nonempty (FragmentRootParts context definition root) := by
  unfold fragmentRoot at returns
  split at returns
  next => exact (Returns.not_throw returns).elim
  next type isType =>
    obtain ⟨listed, areListed, returns⟩ := returns.of_bind
    obtain ⟨⟨head, children⟩, isFragment, returns⟩ := returns.of_bind
    refine ⟨type, listed, head, children, isType, lift_returns areListed, isFragment, ?_⟩
    cases listed with
    | none | some parameters => exact returns.of_pure

/-- What the tree of a definition was made from. -/
inductive RootParts (context : Context) (inputArgument : String) (definition : Definition)
    (root : Root) : Prop where
  | query (isKind : definition.kind = .query) (parts : QueryParts context definition root)
  | mutation (isKind : definition.kind = .mutation) {type : SchemaType} {head : OperationNode}
      {children : Children} (isType : context.schema.mutationType? = some type)
      (parts : OperationParts context inputArgument type context.schema.names.clientMutationId
        definition head children)
      (isRoot : root = .mutation head children)
  | subscription (isKind : definition.kind = .subscription) {type : SchemaType}
      {head : OperationNode} {children : Children}
      (isType : context.schema.subscriptionType? = some type)
      (parts : OperationParts context inputArgument type context.schema.names.clientSubscriptionId
        definition head children)
      (isRoot : root = .subscription head children)
  | fragment (isKind : definition.kind = .fragment)
      (parts : FragmentRootParts context definition root)

theorem root_parts {root : Root}
    (returns : Returns (Build.root context inputArgument definition) root) :
    RootParts context inputArgument definition root := by
  unfold Build.root at returns
  cases isKind : definition.kind with
  | query =>
    rw [isKind] at returns
    obtain ⟨parts⟩ := query_parts returns
    exact .query isKind parts
  | mutation =>
    rw [isKind] at returns
    obtain ⟨type, isType, returns⟩ := returns.of_bind
    obtain ⟨⟨head, children⟩, isOperation, returns⟩ := returns.of_bind
    obtain ⟨parts⟩ := operation_parts isOperation
    exact .mutation isKind (rootType_returns isType) parts returns.of_pure
  | subscription =>
    rw [isKind] at returns
    obtain ⟨type, isType, returns⟩ := returns.of_bind
    obtain ⟨⟨head, children⟩, isOperation, returns⟩ := returns.of_bind
    obtain ⟨parts⟩ := operation_parts isOperation
    exact .subscription isKind (rootType_returns isType) parts returns.of_pure
  | fragment =>
    rw [isKind] at returns
    obtain ⟨parts⟩ := fragmentRoot_parts returns
    exact .fragment isKind parts
  | other code =>
    rw [isKind] at returns
    exact (Returns.not_throw returns).elim

end Build

namespace Definition

variable {schema : Schema} {options : BuildOptions} {definition : Definition} {root : Root}

theorem build_eq_ok_iff :
    definition.build schema options = .ok root ↔
      ∃ count, Build.root (definition.context schema options) options.inputArgument definition 0 =
        .ok (root, count) := by
  unfold Definition.build StateT.run'
  cases Build.root (definition.context schema options) options.inputArgument definition 0 with
  | error found =>
    constructor
    · intro built
      cases built
    · rintro ⟨_, built⟩
      cases built
  | ok result =>
    constructor
    · intro built
      cases built
      exact ⟨result.2, rfl⟩
    · rintro ⟨_, built⟩
      cases built
      rfl

/-- A tree that was built was returned by the build of its definition. -/
theorem returns_of_build (built : definition.build schema options = .ok root) :
    Build.Returns
      (Build.root (definition.context schema options) options.inputArgument definition) root := by
  obtain ⟨count, returned⟩ := build_eq_ok_iff.mp built
  exact ⟨0, count, returned⟩

end Definition

end QueryTree
