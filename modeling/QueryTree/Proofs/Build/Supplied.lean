import QueryTree.Proofs.Build.Site
import QueryTree.Proofs.Diagnostic.Success

/-!
# A node with what was built below it

The array below a node holds the selected fields, the generated ones, the
written fragments and the generated one.  If the trees in it are supplied, so is
the node, as far as its requisites fit.
-/

namespace QueryTree

variable {schema : Schema} {type : SchemaType} {kind : NodeKind}

/-- Whether all nodes of a tree are supplied, given what was written below its root. -/
def Child.AllSupplied (schema : Schema) (written : List Selection) (child : Child) : Prop :=
  ∀ site ∈ child.sites written, site.IsSupplied schema

/-- Whether a tree stands for a selected field. -/
def Child.StandsFor (schema : Schema) (selected : SelectedField) (child : Child) : Prop :=
  child.fieldName? = some selected.field.name ∧ child.AllSupplied schema selected.selections

/-- Whether a tree was generated for a field. -/
def Child.GeneratedFor (schema : Schema) (name : String) (child : Child) : Prop :=
  child.fieldName? = some name ∧ child.AllSupplied schema []

/-- Whether a tree stands for a fragment or a spread. -/
structure Child.StandsForFragment (schema : Schema) (selection : Selection) (child : Child) :
    Prop where
  noField : child.fieldName? = none
  supplied : child.AllSupplied schema selection.inner
  onNode : selection.isOnNode = true → child.IsOnNode

/-- Whether a tree was generated as a fragment on nodes. -/
def Child.GeneratedOnNode (schema : Schema) (child : Child) : Prop :=
  child.IsOnNode ∧ child.AllSupplied schema []

namespace Child

variable {child : Child} {children : List Child} {α : Type}

theorem IsOnNode.noField (onNode : child.IsOnNode) : child.fieldName? = none := by
  obtain ⟨_, _, _, rfl, _⟩ := onNode
  rfl

/-- A supplied fragment on nodes selects their id. -/
theorem AllSupplied.id_mem {written : List Selection} (supplied : child.AllSupplied schema written)
    (onNode : child.IsOnNode) (demands : DemandsNode schema type) : ∃ head shape children,
      child = .fragment head shape children ∧ head.type = nodeInterface ∧
        schema.names.id ∈ fieldNames children := by
  obtain ⟨head, shape, children, rfl, named⟩ := onNode
  obtain ⟨node, isNode, has⟩ := demands.nodeHasId
  obtain ⟨found, _, root⟩ := supplied ⟨.fragment, head.type, written, children⟩
    (by rw [sites]; exact List.mem_cons_self)
  have same : found = node := by
    have isType := root.isType
    rw [show (Site.mk .fragment head.type written children).type = head.type from rfl, named,
      isNode] at isType
    exact (Option.some.inj isType).symm
  exact ⟨head, shape, children, rfl, named, root.complete _ (.id (same ▸ has))⟩

/-! ## Walking over what was built -/

/-- Whether trees have a property together with what was written for them, in
order, and those that are left over with nothing. -/
def Paired (property : List Selection → Child → Prop) : List (List Selection) → List Child → Prop
  | _, [] => True
  | written, child :: children =>
    property (written.headD []) child ∧ Paired property written.tail children

theorem paired_append {property : List Selection → Child → Prop} {written : List (List Selection)}
    {others : List Child} (related : List.Forall₂ property written children)
    (every : ∀ child ∈ others, property [] child) :
    Paired property written (children ++ others) := by
  induction related with
  | nil =>
    induction others with
    | nil => exact trivial
    | cons child others ih =>
      exact ⟨every child List.mem_cons_self, ih (List.forall_mem_cons.mp every).2⟩
  | cons first _ ih => exact ⟨first, ih⟩

theorem supplied_of_paired {fields fragments : List (List Selection)}
    {before after : List Child} (areFields : ∀ child ∈ before, child.fieldName?.isSome = true)
    (areFragments : ∀ child ∈ after, child.fieldName? = none)
    (suppliedBefore : Paired (fun written child => child.AllSupplied schema written) fields before)
    (suppliedAfter : Paired (fun written child => child.AllSupplied schema written)
      fragments after) :
    ∀ site ∈ sitesOf fields fragments (before ++ after), site.IsSupplied schema := by
  induction before generalizing fields with
  | nil =>
    induction after generalizing fragments with
    | nil =>
      intro site member
      cases member
    | cons child after ih =>
      intro site member
      have noField := areFragments child List.mem_cons_self
      simp only [List.nil_append, sitesOf, noField, Option.isSome_none, Bool.false_eq_true,
        if_false, List.mem_append] at member
      rcases member with first | others
      · exact suppliedAfter.1 site first
      · exact ih (fun other inRest => areFragments other (List.mem_cons_of_mem _ inRest))
          suppliedAfter.2 site others
  | cons child before ih =>
    intro site member
    have isField := areFields child List.mem_cons_self
    simp only [List.cons_append, sitesOf, isField, if_true, List.mem_append] at member
    rcases member with first | others
    · exact suppliedBefore.1 site first
    · exact ih (fun other inRest => areFields other (List.mem_cons_of_mem _ inRest))
        suppliedBefore.2 site others

theorem fieldNames_append (children others : List Child) :
    fieldNames (children ++ others) = fieldNames children ++ fieldNames others :=
  List.filterMap_append

theorem fieldNames_of_forall₂ {values : List α} {name : α → String}
    (related : List.Forall₂ (fun value child => child.fieldName? = some (name value))
      values children) : fieldNames children = values.map name := by
  induction related with
  | nil => rfl
  | cons first _ ih =>
    rw [fieldNames, List.filterMap_cons_some first, List.map_cons]
    exact congrArg _ ih

theorem fieldNames_of_noField (noField : ∀ child ∈ children, child.fieldName? = none) :
    fieldNames children = [] :=
  List.filterMap_eq_nil_iff.mpr noField

theorem forall_of_forall₂ {values : List α} {relation : α → Child → Prop} {property : Child → Prop}
    (related : List.Forall₂ relation values children)
    (has : ∀ value ∈ values, ∀ child, relation value child → property child) :
    ∀ child ∈ children, property child := by
  induction related with
  | nil =>
    intro child member
    cases member
  | cons first _ ih =>
    rw [List.forall_mem_cons] at has ⊢
    exact ⟨has.1 _ first, ih has.2⟩

end Child

/-! ## One node -/

/-- What was built below a node: its selected fields, the fields and fragments
that were generated, and the fragments that were written. -/
structure Built (schema : Schema) (type : SchemaType) (requisites : Requisites)
    (selections : List Selection) (fields others fragments generated : List Child) : Prop where
  fields : List.Forall₂ (Child.StandsFor schema) (Selection.fields selections) fields
  others : List.Forall₂ (Child.GeneratedFor schema)
    (Build.missing (schema.required type requisites
        ((Selection.fields selections).map (·.field.name)))
      ((Selection.fields selections).map (·.field.name))) others
  fragments : List.Forall₂ (Child.StandsForFragment schema) (Selection.fragments selections)
    fragments
  generated : List.Forall₂ (fun _ => Child.GeneratedOnNode schema) requisites.nodeFragment.toList
    generated

namespace Built

variable {requisites : Requisites} {selections : List Selection}
variable {fields others fragments generated : List Child}

variable (built : Built schema type requisites selections fields others fragments generated)

include built

theorem noField : ∀ child ∈ fragments ++ generated, child.fieldName? = none := by
  rw [List.forall_mem_append]
  constructor
  · exact Child.forall_of_forall₂ built.fragments fun _ _ _ stands => stands.noField
  · exact Child.forall_of_forall₂ built.generated fun _ _ _ generated => generated.1.noField

theorem isField : ∀ child ∈ fields ++ others, child.fieldName?.isSome = true := by
  rw [List.forall_mem_append]
  constructor
  · exact Child.forall_of_forall₂ built.fields fun _ _ _ stands =>
      Option.isSome_of_eq_some stands.1
  · exact Child.forall_of_forall₂ built.others fun _ _ _ generated =>
      Option.isSome_of_eq_some generated.1

theorem names :
    Child.fieldNames (fields ++ others ++ (fragments ++ generated)) =
      (Selection.fields selections).map (·.field.name) ++
        Build.missing (schema.required type requisites
          ((Selection.fields selections).map (·.field.name)))
          ((Selection.fields selections).map (·.field.name)) := by
  have written := Child.fieldNames_of_forall₂ (built.fields.imp fun _ _ => And.left)
  have added : Child.fieldNames others = _ :=
    (Child.fieldNames_of_forall₂ (built.others.imp fun _ _ => And.left)).trans (List.map_id _)
  have rest := Child.fieldNames_of_noField built.noField
  rw [Child.fieldNames_append, Child.fieldNames_append, written, added, rest, List.append_nil]

/-- A fragment on nodes was written or generated if one is demanded. -/
theorem exists_onNode (fit : requisites.Fit schema kind type selections)
    (demands : DemandsNode schema type) : ∃ head shape children,
      Child.fragment head shape children ∈ fragments ++ generated ∧ head.type = nodeInterface ∧
        schema.names.id ∈ Child.fieldNames children := by
  cases found : requisites.nodeFragment with
  | none =>
    obtain ⟨selection, member, onNode⟩ := List.any_eq_true.mp (fit.onNode demands found)
    have isFragment : selection ∈ Selection.fragments selections := by
      cases selection with
      | inline head inner => exact List.mem_filter.mpr ⟨member, rfl⟩
      | field head inner | spread head => cases onNode
    obtain ⟨child, inFragments, stands⟩ := exists_of_forall₂ built.fragments isFragment
    obtain ⟨head, shape, children, rfl, named, has⟩ :=
      stands.supplied.id_mem (stands.onNode onNode) demands
    exact ⟨head, shape, children, List.mem_append_left _ inFragments, named, has⟩
  | some node =>
    have generated := built.generated
    rw [found] at generated
    obtain ⟨child, inGenerated, onNode, supplied⟩ := exists_of_forall₂ generated List.mem_cons_self
    obtain ⟨head, shape, children, rfl, named, has⟩ := supplied.id_mem onNode demands
    exact ⟨head, shape, children, List.mem_append_right _ inGenerated, named, has⟩

theorem drop_fragments :
    ((fields ++ others ++ (fragments ++ generated)).filter (·.fieldName?.isNone)).drop
      (Selection.fragments selections).length = generated := by
  have none : (fields ++ others).filter (·.fieldName?.isNone) = [] := by
    rw [List.filter_eq_nil_iff]
    intro child member
    rw [Option.isNone_iff_eq_none]
    exact Option.isSome_iff_ne_none.mp (built.isField child member)
  have all : (fragments ++ generated).filter (·.fieldName?.isNone) = fragments ++ generated := by
    rw [List.filter_eq_self]
    intro child member
    rw [built.noField child member]
    rfl
  rw [List.filter_append, none, all, List.nil_append, built.fragments.length_eq, List.drop_left]

theorem demands_of_mem (fit : requisites.Fit schema kind type selections) :
    ∀ child ∈ generated, DemandsNode schema type ∧ child.IsOnNode := by
  intro child member
  have onNode := Child.forall_of_forall₂ built.generated (fun _ _ _ => And.left) child member
  cases found : requisites.nodeFragment with
  | none =>
    have none := built.generated
    rw [found] at none
    cases none
    cases member
  | some node => exact ⟨(fit.node node found).1, onNode⟩

/-- All nodes below are supplied. -/
theorem supplied_below :
    ∀ site ∈ Child.sitesOf ((Selection.fields selections).map (·.selections))
      ((Selection.fragments selections).map Selection.inner)
      (fields ++ others ++ (fragments ++ generated)), site.IsSupplied schema := by
  apply Child.supplied_of_paired built.isField built.noField
  · apply Child.paired_append
    · exact List.forall₂_map_left_iff.mpr (built.fields.imp fun _ _ => And.right)
    · exact Child.forall_of_forall₂ built.others fun _ _ _ => And.right
  · apply Child.paired_append
    · exact List.forall₂_map_left_iff.mpr (built.fragments.imp fun _ _ stands => stands.supplied)
    · exact Child.forall_of_forall₂ built.generated fun _ _ _ => And.right

variable {snake : Bool}

/-- The node itself is supplied. -/
theorem isSupplied (convention : schema.names = .ofConvention snake)
    (declares : schema.Declares type) (fit : requisites.Fit schema kind type selections) :
    Site.IsSupplied schema
      ⟨kind, type.name, selections, fields ++ others ++ (fragments ++ generated)⟩ := by
  let selected := (Selection.fields selections).map (·.field.name)
  let added := Build.missing (schema.required type requisites selected) selected
  have mem_added (name : String) : name ∈ added ↔
      Demanded schema kind type selected name ∧ name ∉ selected := by
    simp [added, Build.missing, List.mem_filter, Schema.mem_required fit]
  -- Edges are never generated, so that the generated fields demand nothing more.
  have edges : schema.names.edges ∈ selected ↔ schema.names.edges ∈ selected ++ added := by
    constructor
    · exact List.mem_append_left _
    · intro member
      rcases List.mem_append.mp member with written | generated
      · exact written
      · exact absurd rfl (((mem_added _).mp generated).1.ne_edges convention)
  have demanded_iff (name : String) :
      Demanded schema kind type.bare (selected ++ added) name ↔
        Demanded schema kind type selected name :=
    Demanded.bare_iff.trans (Demanded.congr edges).symm
  refine ⟨type.bare, added, ⟨declares.type?_name, built.names, ?_, ?_, ?_, ?_, ?_⟩⟩
  · intro name demanded
    rw [Site.fieldNames, built.names] at demanded ⊢
    by_cases written : name ∈ selected
    · exact List.mem_append_left _ written
    · exact List.mem_append_right _ ((mem_added name).mpr ⟨(demanded_iff name).mp demanded, written⟩)
  · intro name member
    rw [Site.fieldNames, built.names]
    exact (demanded_iff name).mpr ((mem_added name).mp member).1
  · exact ⟨(Schema.nodup_required fit selected).filter _, fun name member =>
      ((mem_added name).mp member).2⟩
  · intro demands
    obtain ⟨head, shape, children, member, onNode⟩ :=
      built.exists_onNode fit ⟨demands.1, demands.2, demands.3, demands.4⟩
    exact ⟨head, shape, children, List.mem_append_right _ member, onNode⟩
  · intro child member
    rw [built.drop_fragments] at member
    obtain ⟨demands, onNode⟩ := built.demands_of_mem fit child member
    exact ⟨⟨demands.1, demands.2, demands.3, demands.4⟩, onNode⟩

/-- A node and all nodes below it are supplied. -/
theorem supplied (convention : schema.names = .ofConvention snake) (declares : schema.Declares type)
    (fit : requisites.Fit schema kind type selections) :
    ∀ site ∈ Site.sites
      ⟨kind, type.name, selections, fields ++ others ++ (fragments ++ generated)⟩,
      site.IsSupplied schema :=
  List.forall_mem_cons.mpr ⟨built.isSupplied convention declares fit, built.supplied_below⟩

end Built

end QueryTree
