import QueryTree.Build.Selection
import QueryTree.Proofs.Schema.Lookup

/-!
# Fields that the runtime demands

What has to be selected below a node, by its kind, its type and the names that
are selected already.  The requisites of a node are exactly the fields that it
demands, each of them once.
-/

namespace QueryTree

/-- What a node of a tree stands for. -/
inductive NodeKind where
  | field
  | fragment
  | query
  | mutation
  | subscription

/-- The field by which a client recognizes the response to its operation. -/
def NodeKind.clientId? (names : FieldNames) : NodeKind → Option String
  | .mutation => some names.clientMutationId
  | .subscription => some names.clientSubscriptionId
  | _ => none

/-- The fields that a node of a type has to select if it selects the given ones. -/
inductive Demanded (schema : Schema) (kind : NodeKind) (type : SchemaType)
    (selected : List String) : String → Prop where
  /-- Values are identified by their id. -/
  | id (has : schema.hasField type schema.names.id = true) :
      Demanded schema kind type selected schema.names.id
  /-- The type of a value of an abstract type is known only at run time. -/
  | typeName (isAbstract : type.isAbstract = true) :
      Demanded schema kind type selected typeNameField
  | hasNextPage (isField : kind = .field) (page : type.isPageInfo = true) :
      Demanded schema kind type selected schema.names.hasNextPage
  | hasPreviousPage (isField : kind = .field) (page : type.isPageInfo = true) :
      Demanded schema kind type selected schema.names.hasPreviousPage
  | cursor (isField : kind = .field) (edge : schema.isEdge type = true) :
      Demanded schema kind type selected schema.names.cursor
  | node (isField : kind = .field) (edge : schema.isEdge type = true) :
      Demanded schema kind type selected schema.names.node
  /-- Edges are selected together with their place among the pages. -/
  | pageInfo (connection : schema.isConnection type = true)
      (edges : schema.names.edges ∈ selected) :
      Demanded schema kind type selected schema.names.pageInfo
  | clientId {name : String} (operation : kind.clientId? schema.names = some name)
      (has : schema.hasField type name = true) : Demanded schema kind type selected name

/-- Whether values of a type are identified by a fragment on nodes: they have no
id of their own, may be nodes without being declared as such, and nodes have an
id. -/
structure DemandsNode (schema : Schema) (type : SchemaType) : Prop where
  noId : schema.hasField type schema.names.id = false
  other : type.name ≠ nodeInterface
  mayBeNode : schema.mayImplement type nodeInterface = true
  nodeHasId : ∃ node, schema.type? nodeInterface = some node ∧
    schema.hasField node schema.names.id = true

variable {schema : Schema} {kind : NodeKind} {type : SchemaType} {name : String}

namespace Demanded

variable {selected others : List String}

/-- Of the selected names only that of the edges matters. -/
theorem iff_pageInfo : Demanded schema kind type selected name ↔
    Demanded schema kind type [] name ∨ schema.isConnection type = true ∧
      schema.names.edges ∈ selected ∧ name = schema.names.pageInfo := by
  constructor
  · intro demanded
    cases demanded with
    | pageInfo connection edges => exact .inr ⟨connection, edges, rfl⟩
    | _ =>
      left
      constructor <;> assumption
  · rintro (demanded | ⟨connection, edges, rfl⟩)
    · cases demanded with
      | pageInfo connection edges => cases edges
      | _ => constructor <;> assumption
    · exact .pageInfo connection edges

theorem congr (same : schema.names.edges ∈ selected ↔ schema.names.edges ∈ others) :
    Demanded schema kind type selected name ↔ Demanded schema kind type others name := by
  rw [iff_pageInfo, same, ← iff_pageInfo]

/-- The modifiers of a type do not matter. -/
theorem bare_iff : Demanded schema kind type.bare selected name ↔
    Demanded schema kind type selected name := by
  constructor <;>
    · intro demanded
      cases demanded <;> constructor <;> assumption

/-- No node demands edges. -/
theorem ne_edges {snake : Bool} (convention : schema.names = .ofConvention snake)
    (demanded : Demanded schema kind type selected name) : name ≠ schema.names.edges := by
  have apart : ∀ snake, let names := FieldNames.ofConvention snake
      names.edges ∉ [names.id, typeNameField, names.hasNextPage, names.hasPreviousPage,
        names.cursor, names.node, names.pageInfo, names.clientMutationId,
        names.clientSubscriptionId] := by decide
  have apart := apart snake
  rw [← convention] at apart
  simp only [List.mem_cons, List.not_mem_nil, or_false, not_or] at apart
  cases demanded with
  | clientId operation has =>
    cases kind <;> cases operation <;> grind
  | _ => grind

end Demanded

/-! ## Requisites -/

namespace Requisites

variable (requisites : Requisites) (condition : Bool) (added : String)

theorem mem_add : name ∈ (requisites.add added).fields ↔
    name ∈ requisites.fields ∨ name = added := by
  unfold add
  split
  next known =>
    have member : added ∈ requisites.fields := by simpa using known
    constructor
    · exact .inl
    · rintro (old | rfl)
      · exact old
      · exact member
  next => simp

theorem mem_addIf : name ∈ (requisites.addIf condition added).fields ↔
    name ∈ requisites.fields ∨ condition = true ∧ name = added := by
  unfold addIf
  split
  next holds => simp [mem_add, holds]
  next fails => simp [fails]

theorem nodup_add (once : requisites.fields.Nodup) : (requisites.add added).fields.Nodup := by
  unfold add
  split
  · exact once
  next unknown =>
    refine List.nodup_append.mpr ⟨once, by simp, ?_⟩
    rintro old member _ (_ | ⟨_, ⟨⟩⟩) rfl
    exact unknown (by simpa using member)

theorem nodup_addIf (once : requisites.fields.Nodup) :
    (requisites.addIf condition added).fields.Nodup := by
  unfold addIf
  split
  · exact nodup_add _ _ once
  · exact once

@[simp] theorem nodeFragment_add :
    (requisites.add added).nodeFragment = requisites.nodeFragment := by
  unfold add
  split <;> rfl

@[simp] theorem nodeFragment_addIf :
    (requisites.addIf condition added).nodeFragment = requisites.nodeFragment := by
  unfold addIf
  split
  · exact nodeFragment_add ..
  · rfl

end Requisites

/-- Whether requisites are what a node demands, apart from the page info that
edges call for, and the fragment on nodes unless the author wrote one. -/
structure Requisites.Fit (schema : Schema) (kind : NodeKind) (type : SchemaType)
    (selections : List Selection) (requisites : Requisites) : Prop where
  once : requisites.fields.Nodup
  demanded : ∀ name, name ∈ requisites.fields ↔ Demanded schema kind type [] name
  onNode : DemandsNode schema type → requisites.nodeFragment = none →
    selections.any (·.isOnNode) = true
  node : ∀ node, requisites.nodeFragment = some node → DemandsNode schema type ∧
    schema.type? nodeInterface = some node ∧ schema.hasField node schema.names.id = true

namespace Schema

theorem mem_identity (selections : List Selection) :
    name ∈ (schema.identity type selections).fields ↔
      schema.hasField type schema.names.id = true ∧ name = schema.names.id := by
  unfold identity
  split
  next has => simp [has]
  next lacks =>
    split
    · simp [lacks]
    · split <;> simp [lacks]

theorem nodup_identity (selections : List Selection) :
    (schema.identity type selections).fields.Nodup := by
  unfold identity
  split
  · simp
  · split
    · simp
    · split <;> simp

variable {selections : List Selection} {requisites : Requisites}

/-- Requisites with the fragment of the identity fit if their fields do. -/
theorem fit_of_identity
    (same : requisites.nodeFragment = (schema.identity type selections).nodeFragment)
    (once : requisites.fields.Nodup)
    (demanded : ∀ name, name ∈ requisites.fields ↔ Demanded schema kind type [] name) :
    requisites.Fit schema kind type selections where
  once := once
  demanded := demanded
  onNode demands none := by
    obtain ⟨node, found, has⟩ := demands.nodeHasId
    have withId : schema.nodeWithId? = some node := by
      unfold nodeWithId?
      rw [found]
      exact Option.filter_some_pos has
    rw [same, identity] at none
    simp only [demands.noId, Bool.false_eq_true, if_false, demands.other, demands.mayBeNode,
      decide_false, Bool.not_true, Bool.or_self, withId] at none
    split at none
    · assumption
    · cases none
  node node some := by
    rw [same, identity] at some
    split at some
    · cases some
    next lacks =>
      split at some
      · cases some
      next may =>
        split at some
        · cases some
        · have found := Option.filter_eq_some_iff.mp some
          simp only [Bool.or_eq_true, decide_eq_true_eq, Bool.not_eq_true', not_or,
            Bool.not_eq_false] at may
          exact ⟨⟨Bool.eq_false_iff.mpr lacks, may.1, may.2, node, found⟩, found⟩

theorem fit_requisites (selections : List Selection) (notField : kind ≠ .field)
    (noClientId : kind.clientId? schema.names = none) :
    (schema.requisites type selections).Fit schema kind type selections := by
  apply fit_of_identity
  · exact Requisites.nodeFragment_addIf ..
  · exact Requisites.nodup_addIf _ _ _ (nodup_identity selections)
  · intro name
    simp only [requisites, Requisites.mem_addIf, mem_identity]
    constructor
    · rintro (⟨has, rfl⟩ | ⟨isAbstract, rfl⟩)
      · exact .id has
      · exact .typeName isAbstract
    · intro demanded
      cases demanded with
      | id has => exact .inl ⟨has, rfl⟩
      | typeName isAbstract => exact .inr ⟨isAbstract, rfl⟩
      | hasNextPage isField | hasPreviousPage isField | cursor isField | node isField =>
        exact absurd isField notField
      | pageInfo connection edges => cases edges
      | clientId operation =>
        rw [noClientId] at operation
        cases operation

/-- The requisites of an operation, with the field by which clients recognize
the response. -/
theorem fit_operation (selections : List Selection) {clientId : String}
    (isClientId : kind.clientId? schema.names = some clientId) :
    ((schema.requisites type selections).addIf (schema.hasField type clientId) clientId).Fit
      schema kind type selections := by
  apply fit_of_identity
  · rw [Requisites.nodeFragment_addIf]
    exact Requisites.nodeFragment_addIf ..
  · exact Requisites.nodup_addIf _ _ _ (Requisites.nodup_addIf _ _ _ (nodup_identity selections))
  · intro name
    simp only [requisites, Requisites.mem_addIf, mem_identity]
    constructor
    · rintro ((⟨has, rfl⟩ | ⟨isAbstract, rfl⟩) | ⟨has, rfl⟩)
      · exact .id has
      · exact .typeName isAbstract
      · exact .clientId isClientId has
    · intro demanded
      cases demanded with
      | id has => exact .inl (.inl ⟨has, rfl⟩)
      | typeName isAbstract => exact .inl (.inr ⟨isAbstract, rfl⟩)
      | hasNextPage isField | hasPreviousPage isField | cursor isField | node isField =>
        rw [isField] at isClientId
        cases isClientId
      | pageInfo connection edges => cases edges
      | clientId operation has =>
        rw [isClientId] at operation
        cases operation
        exact .inr ⟨has, rfl⟩

/-- The support of a field: what a page or an edge adds to the identity. -/
theorem fieldRequisites_eq (selections : List Selection) :
    schema.fieldRequisites type selections =
      (((((schema.identity type selections).addIf type.isPageInfo schema.names.hasNextPage).addIf
        type.isPageInfo schema.names.hasPreviousPage).addIf
        (schema.isEdge type) schema.names.cursor).addIf
        (schema.isEdge type) schema.names.node).addIf type.isAbstract typeNameField := by
  unfold fieldRequisites Requisites.addIf
  cases page : type.isPageInfo with
  | true => simp [isConnection_of_isPageInfo page, isEdge_of_isPageInfo page]
  | false =>
    cases edge : schema.isEdge type with
    | true => simp [isConnection_of_isEdge edge]
    | false => simp

theorem fit_fieldRequisites (selections : List Selection) :
    (schema.fieldRequisites type selections).Fit schema .field type selections := by
  rw [fieldRequisites_eq]
  apply fit_of_identity
  · simp only [Requisites.nodeFragment_addIf]
  · apply_rules [Requisites.nodup_addIf, nodup_identity]
  · intro name
    simp only [Requisites.mem_addIf, mem_identity]
    constructor
    · rintro (((((⟨has, rfl⟩ | ⟨page, rfl⟩) | ⟨page, rfl⟩) | ⟨edge, rfl⟩) | ⟨edge, rfl⟩) |
        ⟨isAbstract, rfl⟩)
      · exact .id has
      · exact .hasNextPage rfl page
      · exact .hasPreviousPage rfl page
      · exact .cursor rfl edge
      · exact .node rfl edge
      · exact .typeName isAbstract
    · intro demanded
      cases demanded with
      | pageInfo connection edges => cases edges
      | clientId operation => cases operation
      | _ => simp_all

/-- A selection set requires exactly what its node demands. -/
theorem mem_required (fit : requisites.Fit schema kind type selections) (selected : List String) :
    name ∈ schema.required type requisites selected ↔
      Demanded schema kind type selected name := by
  simp only [required, Requisites.mem_addIf, fit.demanded, Bool.and_eq_true, List.contains_iff_mem]
  refine Iff.trans ?_ Demanded.iff_pageInfo.symm
  constructor
  · rintro (demanded | ⟨⟨⟨connection, _⟩, edges⟩, rfl⟩)
    · exact .inl demanded
    · exact .inr ⟨connection, edges, rfl⟩
  · rintro (demanded | ⟨connection, edges, rfl⟩)
    · exact .inl demanded
    · exact .inr ⟨⟨⟨connection, hasField_of_isConnection connection⟩, edges⟩, rfl⟩

theorem nodup_required (fit : requisites.Fit schema kind type selections) (selected : List String) :
    (schema.required type requisites selected).Nodup :=
  Requisites.nodup_addIf _ _ _ fit.once

end Schema

end QueryTree
