import Mathlib.Data.List.Nodup
import Mathlib.Data.List.Perm.Subperm
import Mathlib.Data.Nat.Find
import QueryTree.Proofs.Build.Failure

/-!
# Which fields can be generated

A field can be generated if it is declared and if all fields that its type asks for
can be generated in turn.  The depth down to which fields are generated plays no part
in this: in a chain of generated fields each type needs less depth than the one
before, so that the types of a chain differ, and a schema has no longer chains than it
has types.
-/

namespace QueryTree

variable {schema : Schema} {type : SchemaType}

/-- The modifiers of a type do not matter. -/
theorem DemandsNode.of_bare {other : SchemaType} (same : type.bare = other.bare)
    (demands : DemandsNode schema type) : DemandsNode schema other := by
  have bare : DemandsNode schema type.bare :=
    ⟨demands.noId, demands.other, demands.mayBeNode, demands.nodeHasId⟩
  rw [same] at bare
  exact ⟨bare.noId, bare.other, bare.mayBeNode, bare.nodeHasId⟩

/-- The fragment on nodes that a type asks for is a requisite unless it was written. -/
theorem Requisites.Fit.nodeFragment_eq {kind : NodeKind} {node : SchemaType}
    {selections : List Selection} {requisites : Requisites} {name : String}
    (fit : requisites.Fit schema kind type selections) (asks : schema.AsksNode type node name)
    (unwritten : selections.any (·.isOnNode) = false) : requisites.nodeFragment = some node := by
  cases generated : requisites.nodeFragment with
  | none =>
    rw [fit.onNode asks.demands generated] at unwritten
    cases unwritten
  | some other => exact (fit.node other generated).2.1.symm.trans asks.isNode

namespace Schema

/-- Whether a field of a type can be generated down to a depth. -/
def GeneratedWithin (schema : Schema) : Nat → SchemaType → String → Prop
  | 0, _, _ => False
  | depth + 1, parent, name => ∃ declared, schema.field? parent name = some declared ∧
      ∀ type asked, schema.Asks declared.type type asked →
        schema.GeneratedWithin depth type asked

/-- Whether all fields that a type asks for can be generated down to a depth. -/
def SuppliedWithin (schema : Schema) (depth : Nat) (type : SchemaType) : Prop :=
  ∀ parent name, schema.Asks type parent name → schema.GeneratedWithin depth parent name

/-- Whether a field of a type can be generated. -/
def Generable (schema : Schema) (parent : SchemaType) (name : String) : Prop :=
  schema.GeneratedWithin (Build.depth schema) parent name

variable {schema : Schema} {depth deeper : Nat} {type other parent : SchemaType} {name : String}

theorem GeneratedWithin.succ (within : schema.GeneratedWithin depth parent name) :
    schema.GeneratedWithin (depth + 1) parent name := by
  induction depth generalizing parent name with
  | zero => exact within.elim
  | succ depth ih =>
    obtain ⟨declared, found, below⟩ := within
    exact ⟨declared, found, fun type asked asks => ih (below type asked asks)⟩

theorem GeneratedWithin.mono (atMost : depth ≤ deeper)
    (within : schema.GeneratedWithin depth parent name) :
    schema.GeneratedWithin deeper parent name := by
  induction atMost with
  | refl => exact within
  | step _ ih => exact ih.succ

theorem SuppliedWithin.mono (atMost : depth ≤ deeper)
    (supplied : schema.SuppliedWithin depth type) : schema.SuppliedWithin deeper type :=
  fun parent name asks => (supplied parent name asks).mono atMost

theorem GeneratedWithin.of_bare (same : parent.bare = other.bare)
    (within : schema.GeneratedWithin depth parent name) :
    schema.GeneratedWithin depth other name := by
  have sameField : schema.field? parent.bare name = schema.field? other.bare name := by rw [same]
  cases depth with
  | zero => exact within
  | succ depth =>
    obtain ⟨declared, found, below⟩ := within
    exact ⟨declared, sameField.symm.trans found, below⟩

theorem SuppliedWithin.of_bare (same : type.bare = other.bare)
    (supplied : schema.SuppliedWithin depth type) : schema.SuppliedWithin depth other := by
  intro parent name asks
  cases asks with
  | below demanded =>
    have ofType : Demanded schema .field type [] name :=
      Demanded.bare_iff.mp (same ▸ Demanded.bare_iff.mpr demanded)
    exact (supplied type name (.below ofType)).of_bare same
  | onNode asks =>
    have demands : DemandsNode schema type := .of_bare same.symm asks.demands
    exact supplied parent name (.onNode ⟨demands, asks.isNode, asks.demanded⟩)

theorem Declares.bare_eq (declares : schema.Declares type) (isOther : schema.Declares other)
    (same : type.name = other.name) : type.bare = other.bare :=
  Option.some.inj (declares.type?_name.symm.trans (same ▸ isOther.type?_name))

/-! ## The least depth -/

/-- Whether a type needs a depth for the fields that it asks for. -/
structure NeedsDepth (schema : Schema) (depth : Nat) (type : SchemaType) : Prop where
  enough : schema.SuppliedWithin depth type
  least : ∀ less < depth, ¬ schema.SuppliedWithin less type

namespace NeedsDepth

theorem unique (needs : schema.NeedsDepth depth type) (others : schema.NeedsDepth deeper other)
    (same : type.bare = other.bare) : depth = deeper := by
  rcases Nat.lt_trichotomy depth deeper with less | equal | more
  · exact (others.least depth less (needs.enough.of_bare same)).elim
  · exact equal
  · exact (needs.least deeper more (others.enough.of_bare same.symm)).elim

/-- A type that needs some depth asks for a field whose type needs one less. -/
theorem next (needs : schema.NeedsDepth (depth + 1) type) :
    ∃ next, schema.Declares next ∧ schema.NeedsDepth depth next := by
  have lacks := needs.least depth (Nat.lt_succ_self depth)
  simp only [SuppliedWithin, not_forall] at lacks
  obtain ⟨parent, name, asks, lacks⟩ := lacks
  obtain ⟨declared, found, enough⟩ := needs.enough parent name asks
  refine ⟨declared.type, declares_of_field? found, enough, fun less isLess supplied => lacks ?_⟩
  exact GeneratedWithin.mono isLess ⟨declared, found, supplied⟩

/-- There are as many types as the depth that one of them needs, and one more. -/
theorem exists_names (declares : schema.Declares type) (needs : schema.NeedsDepth depth type) :
    ∃ names : List String, names.Nodup ∧ names.length = depth + 1 ∧
      ∀ name ∈ names, ∃ other less, schema.Declares other ∧ other.name = name ∧ less ≤ depth ∧
        schema.NeedsDepth less other := by
  induction depth generalizing type with
  | zero =>
    refine ⟨[type.name], List.nodup_singleton _, rfl, fun name member => ?_⟩
    exact ⟨type, 0, declares, (List.mem_singleton.mp member).symm, Nat.le_refl 0, needs⟩
  | succ depth ih =>
    obtain ⟨next, isNext, needsLess⟩ := needs.next
    obtain ⟨names, once, count, each⟩ := ih isNext needsLess
    refine ⟨type.name :: names, List.nodup_cons.mpr ⟨fun member => ?_, once⟩, by simp [count], ?_⟩
    · obtain ⟨other, less, isOther, named, atMost, needsOther⟩ := each _ member
      have equal := needs.unique needsOther (declares.bare_eq isOther named.symm)
      omega
    · intro name member
      rcases List.mem_cons.mp member with rfl | member
      · exact ⟨type, depth + 1, declares, rfl, Nat.le_refl _, needs⟩
      · obtain ⟨other, less, isOther, named, atMost, needsOther⟩ := each name member
        exact ⟨other, less, isOther, named, Nat.le_succ_of_le atMost, needsOther⟩

theorem lt_length (declares : schema.Declares type) (needs : schema.NeedsDepth depth type) :
    depth < schema.types.length := by
  obtain ⟨names, once, count, each⟩ := needs.exists_names declares
  have subset : names ⊆ schema.types.map (·.name) := by
    intro name member
    obtain ⟨other, _, isOther, rfl, _⟩ := each name member
    exact List.mem_map_of_mem (List.mem_of_find?_eq_some isOther)
  have atMost := (List.subperm_of_subset once subset).length_le
  rw [count, List.length_map] at atMost
  exact atMost

end NeedsDepth

theorem SuppliedWithin.within_length (declares : schema.Declares type)
    (supplied : schema.SuppliedWithin depth type) :
    schema.SuppliedWithin schema.types.length type := by
  classical
  have some : ∃ depth, schema.SuppliedWithin depth type := ⟨depth, supplied⟩
  have needs : schema.NeedsDepth (Nat.find some) type :=
    ⟨Nat.find_spec some, fun _ less => Nat.find_min some less⟩
  exact needs.enough.mono (Nat.le_of_lt (needs.lt_length declares))

/-- A field can be generated exactly if it is declared and its type is supplied with all
that it asks for. -/
theorem generable_iff : schema.Generable parent name ↔
    ∃ declared, schema.field? parent name = some declared ∧
      ∀ type asked, schema.Asks declared.type type asked → schema.Generable type asked := by
  constructor
  · rintro ⟨declared, found, below⟩
    exact ⟨declared, found, fun type asked asks => (below type asked asks).succ⟩
  · rintro ⟨declared, found, below⟩
    have supplied : schema.SuppliedWithin (Build.depth schema) declared.type := below
    exact ⟨declared, found, supplied.within_length (declares_of_field? found)⟩

end Schema

/-! ## Builds that succeed -/

namespace Build

variable {α β : Type}

/-- Whether a build succeeds exactly if a condition holds, whatever the count of
fragments is. -/
def Accepts (build : Build α) (condition : Prop) : Prop :=
  ∀ count, Succeeds (build count) ↔ condition

/-- Whether a build returns exactly the values with a property. -/
def Yields (build : Build α) (property : α → Prop) : Prop :=
  ∀ count value, (∃ after, build count = .ok (value, after)) ↔ property value

theorem bind_eq_ok {first : Build α} {next : α → Build β} {count between : Nat} {value : α}
    {result : β × Nat} (isFirst : first count = .ok (value, between))
    (isNext : next value between = .ok result) : (first >>= next) count = .ok result := by
  change (first count >>= fun result => next result.1 result.2) = _
  rw [isFirst]
  exact isNext

namespace Accepts

variable {condition further : Prop}

theorem of_iff {build : Build α} (accepts : Accepts build further)
    (iff : further ↔ condition) : Accepts build condition :=
  fun count => (accepts count).trans iff

theorem pure (value : α) : Accepts (Pure.pure value) True :=
  fun _ => iff_of_true ⟨_, rfl⟩ trivial

theorem throw (error : BuildError) : Accepts (MonadExcept.throw error : Build α) False := by
  refine fun count => iff_of_false ?_ id
  rintro ⟨_, returned⟩
  cases returned

/-- A step and what comes after it succeed together. -/
theorem bind {first : Build α} {next : α → Build β} (ofFirst : Accepts first condition)
    (ofNext : ∀ value, Accepts (next value) further) :
    Accepts (first >>= next) (condition ∧ further) := by
  intro count
  constructor
  · rintro ⟨result, returned⟩
    obtain ⟨⟨value, between⟩, isFirst, isNext⟩ := exists_of_bind_eq_ok returned
    exact ⟨(ofFirst count).mp ⟨_, isFirst⟩, (ofNext value between).mp ⟨_, isNext⟩⟩
  · rintro ⟨holds, holdsNext⟩
    obtain ⟨⟨value, between⟩, isFirst⟩ := (ofFirst count).mpr holds
    obtain ⟨result, isNext⟩ := (ofNext value between).mpr holdsNext
    exact ⟨result, bind_eq_ok isFirst isNext⟩

/-- A step that only passes on what it is given does not matter. -/
theorem thenPure {first : Build α} (ofFirst : Accepts first condition) (result : α → β) :
    Accepts (first >>= fun value => Pure.pure (result value)) condition :=
  (ofFirst.bind fun _ => pure _).of_iff (iff_of_eq (and_true _))

theorem mapM {build : α → Build β} {property : α → Prop} {values : List α}
    (each : ∀ value ∈ values, Accepts (build value) (property value)) :
    Accepts (values.mapM build) (∀ value ∈ values, property value) := by
  induction values with
  | nil =>
    rw [List.mapM_nil]
    exact (pure _).of_iff (by simp)
  | cons value values ih =>
    rw [List.mapM_cons]
    have rest := ih (List.forall_mem_cons.mp each).2
    refine ((each value List.mem_cons_self).bind fun _ => rest.thenPure _).of_iff ?_
    exact List.forall_mem_cons.symm

end Accepts

/-- What comes after a step may depend on the value that it returns. -/
theorem Yields.bind {first : Build α} {next : α → Build β} {property condition : α → Prop}
    (ofFirst : Yields first property)
    (ofNext : ∀ value, property value → Accepts (next value) (condition value)) :
    Accepts (first >>= next) (∃ value, property value ∧ condition value) := by
  intro count
  constructor
  · rintro ⟨result, returned⟩
    obtain ⟨⟨value, between⟩, isFirst, isNext⟩ := exists_of_bind_eq_ok returned
    have holds := (ofFirst count value).mp ⟨between, isFirst⟩
    exact ⟨value, holds, (ofNext value holds between).mp ⟨_, isNext⟩⟩
  · rintro ⟨value, holds, holdsNext⟩
    obtain ⟨between, isFirst⟩ := (ofFirst count value).mpr holds
    obtain ⟨result, isNext⟩ := (ofNext value holds between).mpr holdsNext
    exact ⟨result, bind_eq_ok isFirst isNext⟩

theorem lift_accepts (result : Except Diagnostic α) : Accepts (lift result) (Succeeds result) := by
  cases result with
  | error found =>
    refine (Accepts.throw _).of_iff (iff_of_false id ?_)
    rintro ⟨_, returned⟩
    cases returned
  | ok value => exact (Accepts.pure value).of_iff (iff_of_true trivial ⟨value, rfl⟩)

theorem lift_yields (result : Except Diagnostic α) :
    Yields (lift result) fun value => result = .ok value := by
  intro count value
  constructor
  · rintro ⟨after, returned⟩
    exact lift_returns ⟨count, after, returned⟩
  · rintro rfl
    exact ⟨count, rfl⟩

/-! ## Nodes -/

end Build

theorem Rule.succeeds_iff {verdict : Rule.Verdict} : Succeeds verdict ↔ verdict = .ok () := by
  constructor
  · rintro ⟨_, accepted⟩
    exact accepted
  · exact fun accepted => ⟨(), accepted⟩

/-- Whether nothing is wrong with the directives of a field or a fragment. -/
structure Directive.Valid (parameters : List String) (directives : List Directive) : Prop where
  nodes : Succeeds (Directive.nodes parameters directives)
  facts : Succeeds (Directive.relayFacts parameters directives)

theorem Directive.valid_nil (parameters : List String) : Directive.Valid parameters [] :=
  ⟨⟨_, rfl⟩, ⟨_, rfl⟩⟩

/-- Whether nothing is wrong with the arguments and the directives of a declared field. -/
structure Field.Valid (context : Context) (head : Field) (declared : SchemaField) : Prop where
  calls : Succeeds (Build.calls context head declared)
  directives : Directive.Valid context.parameters head.directives

theorem Field.valid_bareField (context : Context) (name : String) (declared : SchemaField) :
    (Build.bareField name).Valid context declared :=
  ⟨⟨_, rfl⟩, Directive.valid_nil _⟩

namespace Build

variable {context : Context}
variable {origin : Origin} {parent type : SchemaType} {selections : List Selection}
variable {below : Build Children} {condition : Prop} {directives : List Directive}
variable {generate : Generator} {possible : SchemaType → String → Prop}

theorem field_accepts {head : Field} {below : SchemaField → Build Children}
    {condition : SchemaField → Prop}
    (inside : ∀ declared, context.schema.field? parent head.name = some declared →
      Accepts (below declared) (condition declared)) :
    Accepts (field context parent head selections origin below)
      (∃ declared, context.schema.field? parent head.name = some declared ∧
        (origin.checked = true → check context parent head selections declared = .ok ()) ∧
        condition declared ∧ head.Valid context declared) := by
  unfold field
  cases found : context.schema.field? parent head.name with
  | none => exact (Accepts.throw _).of_iff (by simp)
  | some declared =>
    have made : Accepts (fieldNode context head origin declared (below declared))
        (condition declared ∧ head.Valid context declared) := by
      refine ((inside declared found).bind fun children => (lift_accepts _).bind fun calls =>
        (lift_accepts _).bind fun directives => (lift_accepts _).thenPure _).of_iff ?_
      refine and_congr_right fun _ => ?_
      constructor
      · rintro ⟨calls, nodes, facts⟩
        exact ⟨calls, nodes, facts⟩
      · exact fun valid => ⟨valid.calls, valid.directives.nodes, valid.directives.facts⟩
    simp only [Option.some.injEq, exists_eq_left']
    cases checked : origin.checked with
    | false => exact made.of_iff (by simp)
    | true =>
      refine ((lift_accepts _).bind fun _ => made).of_iff (and_congr ?_ Iff.rfl)
      simp only [Rule.succeeds_iff, forall_true_left]

theorem fragment_accepts (inside : Accepts below condition) :
    Accepts (fragment context type directives below)
      (condition ∧ Directive.Valid context.parameters directives) := by
  have counted : Accepts (fragmentId context) True := fun _ => iff_of_true ⟨_, rfl⟩ trivial
  refine (counted.bind fun id => inside.bind fun children => (lift_accepts _).bind fun facts =>
    (lift_accepts _).thenPure _).of_iff ?_
  rw [true_and]
  refine and_congr_right fun _ => ?_
  constructor
  · rintro ⟨facts, nodes⟩
    exact ⟨nodes, facts⟩
  · exact fun valid => ⟨valid.facts, valid.nodes⟩

theorem innerFragment_accepts (inside : Accepts below condition) :
    Accepts (innerFragment context type directives below)
      (condition ∧ Directive.Valid context.parameters directives) :=
  (fragment_accepts inside).thenPure _

/-! ## Generated nodes -/

theorem nodeFragment_accepts {possible : String → Prop} {node : SchemaType}
    (demands : DemandsNode context.schema type)
    (isNode : context.schema.type? nodeInterface = some node)
    (has : context.schema.hasField node context.schema.names.id = true)
    (ofGenerate : ∀ name origin, context.schema.AsksNode type node name →
      origin.checked = false → Accepts (generate node name origin) (possible name)) :
    Accepts (nodeFragment context generate node)
      (∀ name, context.schema.AsksNode type node name → possible name) := by
  have asksId : context.schema.AsksNode type node context.schema.names.id :=
    ⟨demands, isNode, .id has⟩
  have fit : (context.schema.requisites node [.field (bareField context.schema.names.id) []]).Fit
      context.schema .fragment node [.field (bareField context.schema.names.id) []] :=
    Schema.fit_requisites _ (by simp) rfl
  refine (innerFragment_accepts ((ofGenerate _ _ asksId rfl).bind fun selected =>
    (Accepts.mapM fun name member => ofGenerate name _
      (asksNode_of_missing demands isNode member) rfl).thenPure _)).of_iff ?_
  constructor
  · rintro ⟨⟨ofId, ofOthers⟩, _⟩ name asks
    by_cases isId : name = context.schema.names.id
    · exact isId ▸ ofId
    · refine ofOthers name (List.mem_filter.mpr ⟨?_, by simpa using isId⟩)
      exact (Schema.mem_required fit _).mpr asks.demanded
  · intro each
    refine ⟨⟨each _ asksId, fun name member => ?_⟩, Directive.valid_nil _⟩
    exact each name (asksNode_of_missing demands isNode member)

theorem nodeFragments_accepts {kind : NodeKind} {requisites : Requisites}
    (fit : requisites.Fit context.schema kind type selections)
    (ofGenerate : ∀ node name origin, context.schema.AsksNode type node name →
      origin.checked = false → Accepts (generate node name origin) (possible node name)) :
    Accepts (nodeFragments context generate requisites)
      (∀ node name, requisites.nodeFragment = some node →
        context.schema.AsksNode type node name → possible node name) := by
  unfold nodeFragments
  cases isNode : requisites.nodeFragment with
  | none => exact (Accepts.pure _).of_iff (by simp)
  | some node =>
    obtain ⟨demands, found, has⟩ := fit.node node isNode
    refine ((nodeFragment_accepts demands found has (ofGenerate node)).thenPure _).of_iff ?_
    constructor
    · rintro each _ name ⟨⟩
      exact each name
    · exact fun each name => each node name rfl

/-- What is generated below a field that nobody wrote is what its type asks for. -/
theorem supply_accepts (ofGenerate : ∀ parent name origin, origin.checked = false →
      Accepts (generate parent name origin) (possible parent name)) (type : SchemaType) :
    Accepts (do
        let requisites := context.schema.fieldRequisites type []
        let fragments ← nodeFragments context generate requisites
        let required := context.schema.required type requisites []
        let fields ← required.mapM (generate type · generatedOrigin)
        return arrayOf false fields fragments)
      (∀ other asked, context.schema.Asks type other asked → possible other asked) := by
  have fit : (context.schema.fieldRequisites type []).Fit context.schema .field type [] :=
    Schema.fit_fieldRequisites []
  refine ((nodeFragments_accepts fit fun node name origin _ => ofGenerate node name origin).bind
    fun fragments => (Accepts.mapM fun name _ => ofGenerate type name _ rfl).thenPure _).of_iff ?_
  constructor
  · rintro ⟨onNode, below⟩ other asked asks
    cases asks with
    | below demanded => exact below asked ((Schema.mem_required fit _).mpr demanded)
    | onNode asks => exact onNode other asked (fit.nodeFragment_eq asks rfl) asks
  · intro each
    exact ⟨fun node name _ asks => each node name (.onNode asks), fun name member =>
      each type name (.below ((Schema.mem_required fit _).mp member))⟩

/-- A field is generated down to a depth exactly if it can be. -/
theorem requisiteField_accepts {depth : Nat} {name : String} (unchecked : origin.checked = false) :
    Accepts (requisiteField context depth parent name origin)
      (context.schema.GeneratedWithin depth parent name) := by
  induction depth generalizing parent name origin with
  | zero => exact Accepts.throw _
  | succ depth ih =>
    have generates : ∀ parent name origin, origin.checked = false →
        Accepts (requisiteField context depth parent name origin)
          (context.schema.GeneratedWithin depth parent name) := fun _ _ _ => ih
    rw [requisiteField]
    refine (field_accepts fun declared _ => supply_accepts generates declared.type).of_iff ?_
    rw [Schema.GeneratedWithin]
    refine exists_congr fun declared => and_congr_right fun _ => ?_
    simp [unchecked, Field.valid_bareField]

theorem generator_accepts (context : Context) (parent : SchemaType) (name : String)
    (origin : Origin) (unchecked : origin.checked = false) :
    Accepts (generator context parent name origin) (context.schema.Generable parent name) :=
  requisiteField_accepts unchecked

end Build

end QueryTree
