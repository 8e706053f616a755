import Mathlib.Data.Finset.Card
import Mathlib.Data.Finset.Filter
import Mathlib.Data.List.Basic
import Mathlib.Logic.Relation
import QueryTree.Proofs.Build.Failure
import QueryTree.Proofs.Schema.Loaded

/-!
# Generated fields come to an end

A generated field of one type asks for fields of other types.  Unless the types ask
for each other in a circle, every chain of generated fields ends, and it does so
before the depth down to which they are built: along a chain the number of types
that can still be reached decreases.  Then every tree is built with all that it
demands, or it fails for a reason of the definition or of the schema.
-/

namespace QueryTree

namespace Schema

/-- The fields that are generated below a field of a type, each with the type that it
belongs to: the id of its values, what supports pages and edges, and the id of nodes if
values without an id of their own may be nodes. -/
def called (schema : Schema) (type : SchemaType) : List (SchemaType × String) :=
  (type, schema.names.id) ::
    ((if type.isPageInfo then
        [(type, schema.names.hasNextPage), (type, schema.names.hasPreviousPage)] else []) ++
      (if schema.isEdge type then
        [(type, schema.names.cursor), (type, schema.names.node)] else []) ++
      if schema.hasField type schema.names.id = false ∧ type.name ≠ nodeInterface ∧
          schema.mayImplement type nodeInterface = true then
        (schema.type? nodeInterface).toList.map (·, schema.names.id)
      else [])

/-- Whether a field of one type generates a field of another one, by the names of the
types. -/
def Generates (schema : Schema) (name other : String) : Prop :=
  ∃ type parent field declared, schema.type? name = some type ∧
    (parent, field) ∈ schema.called type ∧ schema.field? parent field = some declared ∧
    declared.type.name = other

variable {schema : Schema} {snake : Bool} {parent type : SchemaType} {name other : String}

theorem mem_called {field : String} :
    (parent, field) ∈ schema.called type ↔
      parent = type ∧ field = schema.names.id ∨
      type.isPageInfo = true ∧ parent = type ∧
        (field = schema.names.hasNextPage ∨ field = schema.names.hasPreviousPage) ∨
      schema.isEdge type = true ∧ parent = type ∧
        (field = schema.names.cursor ∨ field = schema.names.node) ∨
      (schema.hasField type schema.names.id = false ∧ type.name ≠ nodeInterface ∧
        schema.mayImplement type nodeInterface = true) ∧
        schema.type? nodeInterface = some parent ∧ field = schema.names.id := by
  simp [called, ← and_or_left, @eq_comm _ _ field]

theorem Generates.intro {type parent : SchemaType} {field : String} {declared : SchemaField}
    (declares : schema.Declares type) (isCalled : (parent, field) ∈ schema.called type.bare)
    (found : schema.field? parent field = some declared) :
    schema.Generates type.name declared.type.name :=
  ⟨type.bare, parent, field, declared, declares.type?_name, isCalled, found, rfl⟩

/-! ## Strings -/

/-- Strings end every chain: they call for nothing, and nothing but the name of a type
leads to them from outside. -/
structure EndsInStrings (schema : Schema) : Prop where
  convention : ∃ snake, schema.names = .ofConvention snake
  bare : BareStrings schema.types

theorem endsInStrings_of_parse {source text : String}
    (loaded : Schema.parse (.ofConvention snake) source text = .ok schema) :
    schema.EndsInStrings := by
  obtain ⟨bare, convention⟩ := bareStrings_of_parse loaded
  exact ⟨⟨snake, convention⟩, bare⟩

namespace EndsInStrings

variable {type : SchemaType} (ends : schema.EndsInStrings)

include ends

section

variable (declares : schema.Declares type) (isString : type.name = "String")

include declares isString

theorem isBare : type.declaration.IsBare := by
  obtain ⟨declaration, found, isBare⟩ := ends.bare
  rw [Declares, isString, declaration?, found] at declares
  cases declares
  exact isBare

theorem not_abstract : type.isAbstract = false := by
  rw [SchemaType.isAbstract, (ends.isBare declares isString).scalar]
  rfl

theorem not_mayImplement : schema.mayImplement type nodeInterface = false := by
  have notAbstract := ends.not_abstract declares isString
  have noInterfaces := (ends.isBare declares isString).noInterfaces
  simp [mayImplement, alwaysImplements, implements, notAbstract, noInterfaces, isString,
    nodeInterface]

theorem lacks_id : schema.field? type schema.names.id = none := by
  obtain ⟨snake, convention⟩ := ends.convention
  have isId : schema.names.id = "id" := by
    rw [convention]
    cases snake <;> rfl
  have lacks : type.declaration.field? "id" = none := by
    refine List.find?_eq_none.mpr fun field member named => ?_
    have introspects := (ends.isBare declares isString).introspects field member
    simp only [Prelude.introspectionFields, List.mem_cons, List.not_mem_nil, or_false]
      at introspects
    rcases introspects with rfl | rfl <;> simp [Prelude.field] at named
  rw [isId, field?, if_neg (by decide)]
  simp [lacks]

end

theorem not_generates {name : String} : ¬ schema.Generates "String" name := by
  rintro ⟨type, parent, field, declared, isType, isCalled, found, _⟩
  have declares := declares_of_type? isType
  have isString := name_of_type? isType
  rcases mem_called.mp isCalled with ⟨rfl, rfl⟩ | ⟨page, _⟩ | ⟨edge, _⟩ | ⟨⟨_, _, mayBeNode⟩, _⟩
  · rw [ends.lacks_id declares isString] at found
    cases found
  · have named : type.name = "PageInfo" := of_decide_eq_true page
    rw [isString] at named
    exact absurd named (by decide)
  · have suffix := suffix_of_isEdge edge
    rw [isString] at suffix
    exact absurd suffix (by decide)
  · rw [ends.not_mayImplement declares isString] at mayBeNode
    cases mayBeNode

end EndsInStrings

/-! ## Chains of types -/

/-- Whether generated fields lead from one type to another one: the name of a type is a
string. -/
def Leads (schema : Schema) (name other : String) : Prop :=
  schema.Generates name other ∨ name ≠ "String" ∧ other = "String"

/-- A field that a type asks for leads to its own type. -/
theorem leads_of_asks (ends : schema.EndsInStrings) {declared : SchemaField}
    (declares : schema.Declares type) (asks : schema.Asks type parent name)
    (found : schema.field? parent name = some declared) :
    schema.Leads type.name declared.type.name := by
  -- Strings are neither abstract nor nodes, so they are not asked for the name of their type.
  have ofTypeName {owner : SchemaType}
      (found : schema.field? owner typeNameField = some declared) :
      declared.type.name = "String" := by
    rw [field?, if_pos rfl] at found
    split at found
    · obtain ⟨string, isString, rfl⟩ := Option.map_eq_some_iff.mp found
      exact (typeOf?_eq_some isString).2
    · cases found
  cases asks with
  | below demanded =>
    cases demanded with
    | id has => exact .inl (.intro declares (mem_called.mpr (.inl ⟨rfl, rfl⟩)) found)
    | typeName isAbstract =>
      refine .inr ⟨fun isString => ?_, ofTypeName found⟩
      rw [ends.not_abstract declares isString] at isAbstract
      cases isAbstract
    | hasNextPage _ page =>
      exact .inl (.intro declares (mem_called.mpr (.inr (.inl ⟨page, rfl, .inl rfl⟩))) found)
    | hasPreviousPage _ page =>
      exact .inl (.intro declares (mem_called.mpr (.inr (.inl ⟨page, rfl, .inr rfl⟩))) found)
    | cursor _ edge =>
      exact .inl (.intro declares (mem_called.mpr (.inr (.inr (.inl ⟨edge, rfl, .inl rfl⟩)))) found)
    | node _ edge =>
      exact .inl (.intro declares (mem_called.mpr (.inr (.inr (.inl ⟨edge, rfl, .inr rfl⟩)))) found)
    | pageInfo _ edges => cases edges
    | clientId operation => cases operation
  | onNode asks =>
    obtain ⟨demands, isNode, demanded⟩ := asks
    cases demanded with
    | id has =>
      exact .inl (.intro declares (mem_called.mpr (.inr (.inr (.inr
        ⟨⟨demands.noId, demands.other, demands.mayBeNode⟩, isNode, rfl⟩)))) found)
    | typeName =>
      refine .inr ⟨fun isString => ?_, ofTypeName found⟩
      have mayBeNode := demands.mayBeNode
      rw [ends.not_mayImplement declares isString] at mayBeNode
      cases mayBeNode
    | hasNextPage isField | hasPreviousPage isField | cursor isField | node isField =>
      cases isField
    | pageInfo connection =>
      have suffix := suffix_of_isConnection connection
      rw [name_of_type? isNode] at suffix
      exact absurd suffix (by decide)
    | clientId operation => cases operation

/-- Strings close no circle. -/
theorem leads_acyclic (ends : schema.EndsInStrings)
    (acyclic : ∀ name, ¬ Relation.TransGen schema.Generates name name) (name : String) :
    ¬ Relation.TransGen schema.Leads name name := by
  have stops (other : String) : ¬ schema.Leads "String" other := by
    rintro (generates | ⟨notString, _⟩)
    · exact ends.not_generates generates
    · exact notString rfl
  -- A chain is made of generated fields alone, unless it ends in strings.
  have chain {other : String} (leads : Relation.TransGen schema.Leads name other) :
      Relation.TransGen schema.Generates name other ∨ other = "String" := by
    induction leads with
    | single first =>
      rcases first with generates | ⟨_, isString⟩
      · exact .inl (.single generates)
      · exact .inr isString
    | tail _ last ih =>
      rcases ih with generates | rfl
      · rcases last with next | ⟨_, isString⟩
        · exact .inl (generates.tail next)
        · exact .inr isString
      · exact (stops _ last).elim
  intro circle
  rcases chain circle with generates | rfl
  · exact acyclic name generates
  · obtain ⟨other, first, _⟩ := Relation.TransGen.head'_iff.mp circle
    exact stops other first

theorem Generates.exists_declared (generates : schema.Generates name other) :
    ∃ type, schema.Declares type ∧ type.name = other := by
  obtain ⟨_, _, _, declared, _, _, found, isOther⟩ := generates
  exact ⟨declared.type, declares_of_field? found, isOther⟩

/-- The names of the declared types. -/
def typeNames (schema : Schema) : Finset String := (schema.types.map (·.name)).toFinset

open Classical in
/-- How many declared types generated fields lead to from a type. -/
noncomputable def reach (schema : Schema) (name : String) : Nat :=
  (schema.typeNames.filter (Relation.TransGen schema.Leads name)).card

theorem Declares.mem_typeNames (declares : schema.Declares type) :
    type.name ∈ schema.typeNames := by
  have member := List.mem_of_find?_eq_some declares
  exact List.mem_toFinset.mpr (List.mem_map_of_mem member)

theorem reach_lt (circleFree : ¬ Relation.TransGen schema.Leads other other)
    (leads : schema.Leads name other) (member : other ∈ schema.typeNames) :
    schema.reach other < schema.reach name := by
  classical
  refine Finset.card_lt_card (Finset.ssubset_iff_of_subset ?_ |>.mpr ⟨other, ?_, ?_⟩)
  · intro found isFound
    obtain ⟨isDeclared, reached⟩ := Finset.mem_filter.mp isFound
    exact Finset.mem_filter.mpr ⟨isDeclared, .head leads reached⟩
  · exact Finset.mem_filter.mpr ⟨member, .single leads⟩
  · exact fun isFound => circleFree (Finset.mem_filter.mp isFound).2

theorem reach_lt_length (circleFree : ¬ Relation.TransGen schema.Leads name name)
    (member : name ∈ schema.typeNames) : schema.reach name < schema.types.length := by
  classical
  have fewer : schema.reach name < schema.typeNames.card := by
    refine Finset.card_lt_card (Finset.filter_ssubset.mpr ⟨name, member, circleFree⟩)
  have atMost : schema.typeNames.card ≤ schema.types.length := by
    simpa [typeNames] using List.toFinset_card_le (schema.types.map (·.name))
  exact Nat.lt_of_lt_of_le fewer atMost

end Schema

/-! ## Depth -/

namespace Build

variable {context : Context} {parent : SchemaType} {name : String} {origin : Origin}

/-- Whether a depth suffices for a generated field: the chains of types from its own type
are shorter. -/
structure Suffices (schema : Schema) (depth : Nat) (parent : SchemaType) (name : String) :
    Prop where
  positive : 0 < depth
  below : ∀ declared, schema.field? parent name = some declared →
    schema.reach declared.type.name + 1 < depth

variable {schema : Schema} (ends : schema.EndsInStrings)
  (acyclic : ∀ name, ¬ Relation.TransGen schema.Generates name name)

include ends acyclic

variable {type : SchemaType} {generate other : Generator} {deeper : Nat}

/-- A depth that suffices for a field leaves enough for those that it asks for. -/
theorem Suffices.next {depth : Nat} (enough : Suffices schema (depth + 1) parent name)
    {declared : SchemaField} (isDeclared : schema.field? parent name = some declared)
    {asked : String} (asks : schema.Asks declared.type type asked) :
    Suffices schema depth type asked := by
  have below := enough.below declared isDeclared
  refine ⟨by omega, fun found isFound => ?_⟩
  have leads := Schema.leads_of_asks ends (Schema.declares_of_field? isDeclared) asks isFound
  have shorter := Schema.reach_lt (Schema.leads_acyclic ends acyclic _) leads
    (Schema.declares_of_field? isFound).mem_typeNames
  omega

/-- The depth of the generator suffices for every field. -/
theorem suffices_depth (parent : SchemaType) (name : String) :
    Suffices schema (depth schema) parent name := by
  refine ⟨Nat.succ_pos _, fun declared isDeclared => Nat.succ_lt_succ ?_⟩
  exact Schema.reach_lt_length (Schema.leads_acyclic ends acyclic _)
    (Schema.declares_of_field? isDeclared).mem_typeNames

theorem requisiteField_bounded (same : context.schema = schema) {depth : Nat}
    (unchecked : origin.checked = false) (enough : Suffices schema depth parent name) :
    Fails (· ≠ .unbounded) (requisiteField context depth parent name origin) := by
  subst same
  induction depth generalizing parent name origin with
  | zero => exact absurd enough.positive (Nat.lt_irrefl 0)
  | succ depth ih =>
    refine requisiteField_succ_fails unchecked (fun _ => nofun) ?_
    intro declared type asked origin isDeclared asks unchecked
    exact ih unchecked (enough.next ends acyclic isDeclared asks)

omit ends acyclic

theorem mapM_congr {α β : Type} {build other : α → Build β} {values : List α}
    (same : ∀ value ∈ values, build value = other value) :
    values.mapM build = values.mapM other := by
  induction values with
  | nil => rfl
  | cons value values ih =>
    rw [List.mapM_cons, List.mapM_cons, same value List.mem_cons_self,
      ih (List.forall_mem_cons.mp same).2]

theorem nodeFragment_congr {node : SchemaType} (demands : DemandsNode context.schema type)
    (isNode : context.schema.type? nodeInterface = some node)
    (has : context.schema.hasField node context.schema.names.id = true)
    (same : ∀ name origin, context.schema.AsksNode type node name →
      generate node name origin = other node name origin) :
    nodeFragment context generate node = nodeFragment context other node := by
  unfold nodeFragment
  apply congrArg (innerFragment context node [])
  dsimp only
  rw [same _ _ ⟨demands, isNode, .id has⟩]
  apply bind_congr
  intro selected
  rw [mapM_congr fun name member => same name generatedOrigin
    (asksNode_of_missing demands isNode member)]

theorem nodeFragments_congr {kind : NodeKind} {requisites : Requisites}
    {selections : List Selection} (fit : requisites.Fit context.schema kind type selections)
    (same : ∀ node name origin, context.schema.AsksNode type node name →
      generate node name origin = other node name origin) :
    nodeFragments context generate requisites = nodeFragments context other requisites := by
  unfold nodeFragments
  split
  next => rfl
  next node isNode =>
    obtain ⟨demands, found, has⟩ := fit.node node isNode
    rw [nodeFragment_congr demands found has (same node)]

theorem requisiteField_succ_congr {depth : Nat}
    (same : ∀ declared type asked origin, context.schema.field? parent name = some declared →
      context.schema.Asks declared.type type asked →
        requisiteField context depth type asked origin =
          requisiteField context deeper type asked origin) :
    requisiteField context (depth + 1) parent name origin =
      requisiteField context (deeper + 1) parent name origin := by
  unfold requisiteField field
  split
  next => rfl
  next declared isDeclared =>
    have fit : (context.schema.fieldRequisites declared.type []).Fit context.schema .field
        declared.type [] := Schema.fit_fieldRequisites []
    have fragments := nodeFragments_congr fit fun node asked origin asks =>
      same declared node asked origin isDeclared (.onNode asks)
    have fields := mapM_congr fun asked member => same declared declared.type asked generatedOrigin
      isDeclared (.below ((Schema.mem_required fit []).mp member))
    simp only [fragments, fields]

include ends acyclic

/-- A greater depth changes nothing where a depth suffices. -/
theorem requisiteField_stable (same : context.schema = schema) {depth : Nat}
    (atLeast : depth ≤ deeper) (enough : Suffices schema depth parent name) :
    requisiteField context depth parent name origin =
      requisiteField context deeper parent name origin := by
  subst same
  induction depth generalizing parent name origin deeper with
  | zero => exact absurd enough.positive (Nat.lt_irrefl 0)
  | succ depth ih =>
    obtain ⟨deeper, rfl⟩ := Nat.exists_eq_add_of_lt atLeast
    rw [Nat.add_assoc, ← Nat.add_assoc]
    refine requisiteField_succ_congr fun declared type asked origin isDeclared asks => ?_
    exact ih (Nat.le_add_right ..) (enough.next ends acyclic isDeclared asks)

/-- No generated field goes on without end. -/
theorem GenerationFails.ne_unbounded {error : BuildError} (fails : GenerationFails schema error) :
    error ≠ .unbounded := by
  cases fails with
  | intro same _ unchecked failed =>
    subst same
    exact requisiteField_bounded ends acyclic rfl unchecked (suffices_depth ends acyclic _ _) _ _
      failed

end Build

/-! ## Trees -/

/-- If no type calls for itself through generated fields, following them is well founded,
the depth down to which they are built plays no part, and no build goes on without end. -/
theorem Schema.build_ends_of_acyclic {schema : Schema} {snake : Bool} {source text : String}
    (loaded : Schema.parse (.ofConvention snake) source text = .ok schema)
    (acyclic : ∀ name, ¬ Relation.TransGen schema.Generates name name) :
    WellFounded (flip schema.Generates) ∧
      (∀ context, context.schema = schema → ∀ depth, Build.depth schema ≤ depth →
        Build.requisiteField context depth = Build.generator context) ∧
      ∀ options definition, Definition.build schema options definition ≠ .error .unbounded := by
  have ends := Schema.endsInStrings_of_parse loaded
  refine ⟨?_, ?_, ?_⟩
  · apply Subrelation.wf (r := InvImage (· < ·) schema.reach)
    · intro other name generates
      obtain ⟨type, declares, rfl⟩ := generates.exists_declared
      exact Schema.reach_lt (Schema.leads_acyclic ends acyclic _) (.inl generates)
        declares.mem_typeNames
    · exact InvImage.wf schema.reach Nat.lt_wfRel.wf
  · rintro context rfl depth atLeast
    funext parent name origin
    exact (Build.requisiteField_stable ends acyclic rfl atLeast
      (Build.suffices_depth ends acyclic parent name)).symm
  · intro options definition endless
    rcases Definition.failsBy_of_build endless with atFault | generated
    · cases atFault
    · exact generated.ne_unbounded ends acyclic rfl

/-! ## A schema without circles -/

namespace Schema

/-- Whether a rank decreases along all fields that declared types generate. -/
def isRankedBy (schema : Schema) (rank : String → Nat) : Bool :=
  schema.types.all fun declaration => (schema.type? declaration.name).all fun type =>
    (schema.called type).all fun (parent, field) => (schema.field? parent field).all fun declared =>
      rank declared.type.name < rank declaration.name

/-- Types that can be ranked do not call for themselves. -/
theorem acyclic_of_isRankedBy {schema : Schema} {rank : String → Nat}
    (ranked : schema.isRankedBy rank = true) (name : String) :
    ¬ Relation.TransGen schema.Generates name name := by
  have step {name other : String} (generates : schema.Generates name other) :
      rank other < rank name := by
    obtain ⟨type, parent, field, declared, isType, isCalled, found, rfl⟩ := generates
    have member := List.mem_of_find?_eq_some (declares_of_type? isType)
    have ofType := List.all_eq_true.mp ranked type.declaration member
    have named : type.declaration.name = name := name_of_type? isType
    simp only [named, isType, Option.all_some] at ofType
    simpa [found] using List.all_eq_true.mp ofType (parent, field) isCalled
  have lower {other : String} (chain : Relation.TransGen schema.Generates name other) :
      rank other < rank name := by
    induction chain with
    | single first => exact step first
    | tail _ last ih => exact Nat.lt_trans (step last) ih
  exact fun circle => Nat.lt_irrefl _ (lower circle)

end Schema

namespace Sample

/-- Tags behind the edges of a feed, whose page info only has the end of the page. -/
def tagFeed : String :=
  "type Query \x7b feed: FeedConnection \x7d" ++
  "type FeedConnection \x7b edges: [FeedEdge] pageInfo: PageInfo \x7d" ++
  "type FeedEdge \x7b cursor: String node: Tag \x7d" ++
  "type Tag \x7b id: ID \x7d" ++
  "type PageInfo \x7b endCursor: String \x7d"

/-- Edges come before tags and tags before everything else. -/
def tagFeedRank (name : String) : Nat :=
  if name = "FeedEdge" then 2 else if name = "Tag" then 1 else 0

theorem tagFeed_loads : ∃ schema, Schema.parse (.ofConvention false) "feed" tagFeed = .ok schema ∧
    schema.isRankedBy tagFeedRank = true :=
  Schema.exists_of_load? (by decide +kernel)

end Sample

/-- Edges of the feed generate tags and tags generate ids, which is the end. -/
theorem Schema.tagFeed_build_ends : ∃ schema,
    Schema.parse (.ofConvention false) "feed" Sample.tagFeed = .ok schema ∧
      (∀ name, ¬ Relation.TransGen schema.Generates name name) ∧
      WellFounded (flip schema.Generates) ∧
      ∀ options definition, Definition.build schema options definition ≠ .error .unbounded := by
  obtain ⟨schema, loaded, ranked⟩ := Sample.tagFeed_loads
  have acyclic := Schema.acyclic_of_isRankedBy ranked
  obtain ⟨wellFounded, _, ends⟩ := Schema.build_ends_of_acyclic loaded acyclic
  exact ⟨schema, loaded, acyclic, wellFounded, ends⟩

end QueryTree
