import QueryTree.Node.Json
import QueryTree.Proofs.Language.Value

/-!
# The values in a tree

All values that stand anywhere in a tree: in its calls and directives, and as facts
about its calls and its nodes.  Facts are plain literals.
-/

namespace QueryTree

/-! ## Facts -/

namespace Metadata

/-- Facts as values. -/
def values (metadata : Metadata) : List ArgumentValue :=
  metadata.entries.map fun entry => .literal entry.2

/-- Whether all facts have a property. -/
def Holds (property : ArgumentValue → Prop) (metadata : Metadata) : Prop :=
  ∀ value ∈ metadata.values, property value

variable {property : ArgumentValue → Prop} {metadata : Metadata}

theorem holds_empty : empty.Holds property := by
  intro value member
  cases member

theorem mem_insertEntry {key : String} {value : Literal} {entries : List (String × Literal)}
    {entry : String × Literal} (member : entry ∈ insertEntry key value entries) :
    entry = (key, value) ∨ entry ∈ entries := by
  induction entries with
  | nil =>
    rw [insertEntry] at member
    exact .inl (List.mem_singleton.mp member)
  | cons first entries ih =>
    obtain ⟨known, old⟩ := first
    rw [insertEntry] at member
    split at member
    · exact (List.mem_cons.mp member).imp_right (List.mem_cons_of_mem _)
    · split at member
      · exact List.mem_cons.mp member
      · rcases List.mem_cons.mp member with rfl | member
        · exact .inr List.mem_cons_self
        · exact (ih member).imp_right (List.mem_cons_of_mem _)

variable (holds : metadata.Holds property)

include holds

theorem Holds.set (key : String) {fact : Literal} (ofFact : property (.literal fact)) :
    (metadata.set key fact).Holds property := by
  intro value member
  obtain ⟨entry, isEntry, rfl⟩ := List.mem_map.mp member
  rcases mem_insertEntry isEntry with rfl | known
  · exact ofFact
  · exact holds _ (List.mem_map_of_mem known)

theorem Holds.mark (condition : Bool) (key : String) (ofTrue : property (.literal (.bool true))) :
    (metadata.mark condition key).Holds property := by
  unfold Metadata.mark
  split
  · exact holds.set key ofTrue
  · exact holds

theorem Holds.setAll {facts : List (String × Literal)}
    (ofFacts : ∀ fact ∈ facts, property (.literal fact.2)) :
    (metadata.setAll facts).Holds property := by
  unfold Metadata.setAll
  induction facts generalizing metadata with
  | nil => exact holds
  | cons fact facts ih =>
    apply ih (holds.set fact.1 (ofFacts fact List.mem_cons_self))
    intro other member
    exact ofFacts other (List.mem_cons_of_mem _ member)

end Metadata

/-! ## Nodes -/

/-- The value of a call and the facts about it. -/
def Call.values (call : Call) : List ArgumentValue := call.value :: call.metadata.values

/-- The values in a directive. -/
def DirectiveNode.values (directive : DirectiveNode) : List ArgumentValue :=
  directive.arguments.map (·.2)

/-- The values in the calls, the directives and the facts of a node. -/
def nodeValues (calls : Option (List Call)) (directives : Option (List DirectiveNode))
    (metadata : Metadata) : List ArgumentValue :=
  (calls.getD []).flatMap Call.values ++ (directives.getD []).flatMap DirectiveNode.values ++
    metadata.values

variable {calls : Option (List Call)} {directives : Option (List DirectiveNode)}
variable {metadata : Metadata}

theorem forall_nodeValues {property : ArgumentValue → Prop}
    (ofCalls : ∀ call ∈ calls.getD [], ∀ value ∈ call.values, property value)
    (ofDirectives : ∀ directive ∈ directives.getD [], ∀ value ∈ directive.values, property value)
    (ofFacts : metadata.Holds property) :
    ∀ value ∈ nodeValues calls directives metadata, property value := by
  intro value member
  rcases List.mem_append.mp member with member | inFacts
  · rcases List.mem_append.mp member with inCalls | inDirectives
    · obtain ⟨call, isCall, inCall⟩ := List.mem_flatMap.mp inCalls
      exact ofCalls call isCall value inCall
    · obtain ⟨directive, isDirective, inDirective⟩ := List.mem_flatMap.mp inDirectives
      exact ofDirectives directive isDirective value inDirective
  · exact ofFacts value inFacts

/-- A further fact is the only new value of a node. -/
theorem mem_nodeValues_set {key : String} {fact : Literal} {value : ArgumentValue}
    (member : value ∈ nodeValues calls directives (metadata.set key fact)) :
    value = .literal fact ∨ value ∈ nodeValues calls directives metadata := by
  rcases List.mem_append.mp member with others | inFacts
  · exact .inr (List.mem_append_left _ others)
  · have known : metadata.Holds fun value => value = .literal fact ∨ value ∈ metadata.values :=
      fun value member => .inr member
    exact (known.set key (.inl rfl) value inFacts).imp_right (List.mem_append_right _)

namespace Child

/-- Induction on a node, with the property assumed of the nodes below it. -/
@[elab_as_elim]
theorem induction {motive : Child → Prop}
    (field : ∀ head shape children, (∀ child ∈ children, motive child) →
      motive (.field head shape children))
    (fragment : ∀ head shape children, (∀ child ∈ children, motive child) →
      motive (.fragment head shape children))
    (reference : ∀ slot, motive (.reference slot)) (child : Child) : motive child := by
  refine @Child.rec motive (fun children => ∀ child ∈ children, motive child) field fragment
    reference ?_ ?_ child
  · exact List.forall_mem_nil _
  · intro first rest ofFirst ofRest
    exact List.forall_mem_cons.mpr ⟨ofFirst, ofRest⟩

mutual

/-- The values in a node and the nodes below it. -/
def values : Child → List ArgumentValue
  | .field head _ children =>
    nodeValues head.calls head.directives head.metadata ++ valuesOf children
  | .fragment head _ children => nodeValues none head.directives head.metadata ++ valuesOf children
  | .reference _ => []

/-- The values in nodes and the nodes below them. -/
def valuesOf : List Child → List ArgumentValue
  | [] => []
  | child :: children => values child ++ valuesOf children

end

theorem valuesOf_eq_flatMap (children : List Child) :
    valuesOf children = children.flatMap values :=
  eq_flatMap_of_cons rfl fun _ _ => rfl

theorem forall_valuesOf {property : ArgumentValue → Prop} {children : List Child}
    (each : ∀ child ∈ children, ∀ value ∈ child.values, property value) :
    ∀ value ∈ valuesOf children, property value := by
  intro value member
  rw [valuesOf_eq_flatMap] at member
  obtain ⟨child, isChild, inChild⟩ := List.mem_flatMap.mp member
  exact each child isChild value inChild

end Child

namespace Root

/-- The values in a tree. -/
def values : Root → List ArgumentValue
  | .query head children =>
    nodeValues head.calls head.directives head.metadata ++ Child.valuesOf children.items
  | .mutation head children =>
    nodeValues head.calls head.directives head.metadata ++ Child.valuesOf children.items
  | .subscription head children =>
    nodeValues head.calls head.directives head.metadata ++ Child.valuesOf children.items
  | .fragment head children =>
    nodeValues none head.directives head.metadata ++ Child.valuesOf children.items
  | .createFragment head children _ =>
    nodeValues none head.directives head.metadata ++ Child.valuesOf children.items

/-- The parameters of a tree that is constructed at run time. -/
def parameters? : Root → Option (List String)
  | .createFragment _ _ parameters => some parameters
  | _ => none

end Root

end QueryTree
