import QueryTree.Proofs.Build.Inherited
import QueryTree.Proofs.Build.Repeated

/-!
# Trees are well typed

Each field below a node is declared by the type that the node names, and names
the type of its declaration; its calls belong to declared parameters.  This is so
for the fields that were written and for those that were generated.
-/

namespace QueryTree

variable {schema : Schema}

/-! ## Well typed trees -/

/-- Whether a call belongs to a parameter of a field and notes its type exactly if
that is necessary. -/
def Call.Fits (declared : SchemaField) (call : Call) : Prop :=
  ∃ parameter, declared.argument? call.name = some parameter ∧
    call.metadata.get? "type" =
      if parameter.type.isNoted then some (.string parameter.type.text) else none

/-- Whether a field may stand below a node of a type. -/
structure FieldNode.Fits (schema : Schema) (parent : SchemaType) (head : FieldNode)
    (declared : SchemaField) : Prop where
  found : schema.field? parent head.name = some declared
  type : head.type = declared.type.name
  calls : ∀ calls, head.calls = some calls → ∀ call ∈ calls, call.Fits declared

namespace Child

mutual

/-- Whether a node may stand below a node of a type, and all nodes below it where
they are. -/
def WellTyped (schema : Schema) (parent : SchemaType) : Child → Prop
  | .field head _ children =>
    (∃ declared, head.Fits schema parent declared) ∧
      ∃ type, schema.type? head.type = some type ∧ AllWellTyped schema type children
  | .fragment head _ children =>
    ∃ type, schema.type? head.type = some type ∧ AllWellTyped schema type children
  | .reference _ => True

/-- Whether nodes may stand below a node of a type. -/
def AllWellTyped (schema : Schema) (parent : SchemaType) : List Child → Prop
  | [] => True
  | child :: children => WellTyped schema parent child ∧ AllWellTyped schema parent children

end

end Child

/-- Whether the nodes of a selection array may stand below a node that names its
type. -/
def Children.WellTyped (schema : Schema) (type : String) (children : Children) : Prop :=
  ∃ parent, schema.type? type = some parent ∧ Child.AllWellTyped schema parent children.items

/-- Whether a field of a root type has a type of the given name. -/
def Schema.RootFieldHasType (schema : Schema) (root : Option SchemaType) (field type : String) :
    Prop :=
  ∃ rootType declared, root = some rootType ∧ schema.field? rootType field = some declared ∧
    type = declared.type.name

/-- Whether an operation calls one field of a root type and names the type of that
field as the type of its response. -/
def OperationNode.Fits (schema : Schema) (root : Option SchemaType) (head : OperationNode) : Prop :=
  ∃ call, head.calls = some [call] ∧ schema.RootFieldHasType root call.name head.responseType

/-- Whether a tree fits a schema, from its root down. -/
def Root.WellTyped (schema : Schema) : Root → Prop
  | .query head children =>
    schema.RootFieldHasType schema.queryType? head.field head.type ∧
      children.WellTyped schema head.type
  | .mutation head children =>
    head.Fits schema schema.mutationType? ∧ children.WellTyped schema head.responseType
  | .subscription head children =>
    head.Fits schema schema.subscriptionType? ∧ children.WellTyped schema head.responseType
  | .fragment head children => children.WellTyped schema head.type
  | .createFragment head children _ => children.WellTyped schema head.type

namespace Child

variable {children : List Child} {parent : SchemaType}

theorem allWellTyped_of_forall (every : ∀ child ∈ children, child.WellTyped schema parent) :
    AllWellTyped schema parent children := by
  induction children with
  | nil =>
    rw [AllWellTyped]
    exact trivial
  | cons child children ih =>
    rw [AllWellTyped]
    exact ⟨every child List.mem_cons_self, ih (List.forall_mem_cons.mp every).2⟩

/-- The modifiers of the type above do not matter. -/
theorem WellTyped.bare {child : Child} (typed : child.WellTyped schema parent) :
    child.WellTyped schema parent.bare := by
  cases child with
  | field head shape children =>
    rw [WellTyped] at typed ⊢
    obtain ⟨⟨declared, fits⟩, below⟩ := typed
    exact ⟨⟨declared, fits.found, fits.type, fits.calls⟩, below⟩
  | fragment head shape children =>
    rw [WellTyped] at typed ⊢
    exact typed
  | reference slot =>
    rw [WellTyped]
    exact trivial

/-- Nodes below a declared type are found to be well typed by its name. -/
theorem exists_allWellTyped {type : SchemaType} (declares : schema.Declares type)
    (every : ∀ child ∈ children, child.WellTyped schema type) :
    ∃ parent, schema.type? type.name = some parent ∧ AllWellTyped schema parent children :=
  ⟨type.bare, declares.type?_name,
    allWellTyped_of_forall fun child member => (every child member).bare⟩

end Child

/-! ## Nodes that are built -/

namespace Build

variable {context : Context}
variable {declared : SchemaField} {head : Field} {kind : NodeKind} {type : SchemaType}
variable {definition : Definition} {inputArgument : String}

theorem CallParts.fits {argument : Argument} {made : Call}
    (parts : CallParts context declared argument made) : made.Fits declared := by
  obtain ⟨⟨sameName, _⟩, parameter, found, facts⟩ := parts
  refine ⟨parameter, sameName ▸ found, ?_⟩
  rw [facts]
  split
  · rfl
  · rfl

theorem calls_fit {made : Option (List Call)} (succeeded : calls context head declared = .ok made) :
    ∀ calls, made = some calls → ∀ call ∈ calls, call.Fits declared := by
  rintro calls rfl call member
  obtain ⟨argument, _, parts⟩ := (calls_parts succeeded).exists_value member
  exact parts.fits

theorem wellTyped_passesOn (context : Context) :
    PassesOn context (fun _ => True) (Child.WellTyped context.schema) where
  field parts _ below := by
    rw [parts.isChild, Child.WellTyped]
    exact ⟨⟨parts.declared, parts.found, rfl, calls_fit parts.areCalls⟩,
      Child.exists_allWellTyped (Schema.declares_of_field? parts.found) below⟩
  fragment parts declares _ below := by
    rw [Child.WellTyped, parts.isNode]
    exact Child.exists_allWellTyped declares below
  reference _ _ := by
    rw [Child.WellTyped]
    exact trivial

/-- What is built below a node of a declared type is well typed. -/
theorem children_wellTyped {requisites : Requisites} {selections : List Selection}
    {children : Children} (declares : context.schema.Declares type)
    (fit : requisites.Fit context.schema kind type selections)
    (returns : Returns (Build.children context type requisites selections) children) :
    children.WellTyped context.schema type.name :=
  Child.exists_allWellTyped declares
    ((wellTyped_passesOn context).children declares fit (fun _ _ => trivial) returns)

/-! ## Definitions -/

theorem query_wellTyped {root : Root} (parts : QueryParts context definition root) :
    root.WellTyped context.schema := by
  have fit : (context.schema.requisites parts.declared.type parts.selected.selections).Fit
      context.schema .query parts.declared.type parts.selected.selections :=
    Schema.fit_requisites parts.selected.selections (by simp) rfl
  rw [parts.isRoot]
  exact ⟨⟨parts.type, parts.declared, parts.isType, parts.found, rfl⟩,
    children_wellTyped (Schema.declares_of_field? parts.found) fit parts.isBelow⟩

/-- A mutation or a subscription on a root type. -/
theorem operation_wellTyped {clientId : String} {head : OperationNode} {children : Children}
    (isClientId : kind.clientId? context.schema.names = some clientId)
    (parts : OperationParts context inputArgument type clientId definition head children) :
    head.Fits context.schema (some type) ∧
      children.WellTyped context.schema head.responseType := by
  rw [parts.isHead]
  exact ⟨⟨_, rfl, type, parts.declared, rfl, parts.found, rfl⟩,
    children_wellTyped (Schema.declares_of_field? parts.found)
      (Schema.fit_operation parts.selected.selections isClientId) parts.isBelow⟩

theorem fragmentRoot_wellTyped {root : Root} (parts : FragmentRootParts context definition root) :
    root.WellTyped context.schema := by
  obtain ⟨isBelow, named⟩ := fragment_returns parts.isFragment
  have fit : (context.schema.requisites parts.type definition.selections).Fit context.schema
      .fragment parts.type definition.selections :=
    Schema.fit_requisites definition.selections (by simp) rfl
  -- The parameters of the fragment leave the schema as it is.
  have typed : parts.children.WellTyped (fragmentContext context definition parts.listed).schema
      parts.head.type := by
    rw [named]
    exact children_wellTyped (Schema.declares_of_type? parts.isType) fit isBelow
  rw [parts.isRoot]
  cases parts.listed with
  | none | some parameters => exact typed

theorem root_wellTyped {root : Root}
    (returns : Returns (Build.root context inputArgument definition) root) :
    root.WellTyped context.schema := by
  cases root_parts returns with
  | query _ parts => exact query_wellTyped parts
  | mutation _ isType parts isRoot =>
    rw [isRoot, Root.WellTyped, isType]
    exact operation_wellTyped (show NodeKind.mutation.clientId? _ = _ from rfl) parts
  | subscription _ isType parts isRoot =>
    rw [isRoot, Root.WellTyped, isType]
    exact operation_wellTyped (show NodeKind.subscription.clientId? _ = _ from rfl) parts
  | fragment _ parts => exact fragmentRoot_wellTyped parts

end Build

/-- The tree of a definition is well typed: below every node stand fields that its
type declares, with the types of their declarations and with calls of declared
parameters, and the root is a field of the root type of its operation. -/
theorem Definition.build_wellTyped {schema : Schema} {options : BuildOptions}
    {definition : Definition} {root : Root} (built : definition.build schema options = .ok root) :
    root.WellTyped schema :=
  Build.root_wellTyped (Definition.returns_of_build built)

/-! ## A query with calls -/

namespace Sample

/-- A parameter without a default value. -/
def parameter (name : String) (type : TypeRef) : ArgumentDeclaration :=
  ⟨name, type, none, [], "", .unknown⟩

/-- The feed of a viewer, who chooses the order of its items and the first day. -/
def viewerSchema : Schema :=
  { feedSchema with
    types :=
      [⟨.object, "Query", [], [], [plainField "viewer" (optional "Viewer")], [], [], "", false,
          .unknown⟩,
        ⟨.object, "Viewer", [], [],
          [{ plainField "feed" (optional "FeedConnection") with
            arguments :=
              [parameter "first" (optional "Int"),
                parameter "order" (.list (optional "Order") true .unknown),
                parameter "since" (optional "Date")] }], [], [], "", false, .unknown⟩,
        ⟨.enum, "Order", [], [], [], [], [⟨"NEWEST", [], "", .unknown⟩], "", false, .unknown⟩,
        ⟨.scalar, "Date", [], [], [], [], [], "", false, .unknown⟩,
        ⟨.scalar, "Int", [], [], [], [], [], "", true, .unknown⟩] ++ feedSchema.types.tail }

/-- An argument of a field. -/
def argument (name : String) (value : Value) : Argument := ⟨name, value, .unknown⟩

/-- A query for the texts of the newest tags in the feed. -/
def viewerQuery : Definition :=
  { feedQuery with
    name := "Viewer"
    selections :=
      [.field (Build.bareField "viewer") [.field
        { Build.bareField "feed" with
          arguments :=
            [argument "first" (.int "10" .unknown),
              argument "order" (.list [.enum "NEWEST" .unknown] .unknown),
              argument "since" (.variable "since" .unknown)] }
        [.field (Build.bareField "edges") [.field (Build.bareField "node") [.inline
          ⟨some "Tag", [], .unknown⟩ [.field (Build.bareField "text") []]]]]]] }

end Sample

/-- The calls of the feed note the order, an enumeration, and the first day, a
scalar of the schema, but not the number of items. -/
theorem Definition.viewerQuery_wellTyped :
    ∃ root, Sample.viewerQuery.build Sample.viewerSchema ⟨defaultInputArgument, true, []⟩ =
        .ok root ∧ (root.sites Sample.viewerQuery).length = 14 ∧
      root.WellTyped Sample.viewerSchema := by
  have counted : (Sample.viewerQuery.build Sample.viewerSchema
      ⟨defaultInputArgument, true, []⟩).toOption.map
        (fun root => (root.sites Sample.viewerQuery).length) = some 14 := by decide +kernel
  cases built : Sample.viewerQuery.build Sample.viewerSchema ⟨defaultInputArgument, true, []⟩ with
  | error found =>
    rw [built] at counted
    cases counted
  | ok root =>
    rw [built] at counted
    exact ⟨root, rfl, Option.some.inj counted, Definition.build_wellTyped built⟩

end QueryTree
