import QueryTree.Proofs.Build.Returns

/-!
# Calls and directives of nodes

The calls of a node are made from the arguments of its field one by one, and its
directives from those that were written, `@relay` aside.  Each call belongs to a
declared parameter.  What makes them is read backwards here, and nowhere else.
-/

namespace QueryTree

/-! ## What is repeated -/

/-- Whether an optional list has an entry for each value in order.  It is missing
exactly if there is none. -/
def Lists {α β : Type} (relation : α → β → Prop) (written : List α) (listed : Option (List β)) :
    Prop :=
  List.Forall₂ relation written (listed.getD []) ∧ (listed = none ↔ written = [])

namespace Lists

variable {α β : Type} {relation : α → β → Prop}

theorem none : Lists relation [] Option.none := ⟨.nil, by simp⟩

theorem some {first : α} {written : List α} {listed : List β}
    (related : List.Forall₂ relation (first :: written) listed) :
    Lists relation (first :: written) (Option.some listed) := ⟨related, by simp⟩

variable {written : List α} {listed : Option (List β)}

theorem imp {weaker : α → β → Prop} (lists : Lists relation written listed)
    (weaken : ∀ value entry, relation value entry → weaker value entry) :
    Lists weaker written listed :=
  ⟨lists.1.imp weaken, lists.2⟩

/-- Each of the entries comes from one of the values. -/
theorem exists_value (lists : Lists relation written listed) {entry : β}
    (member : entry ∈ listed.getD []) : ∃ value ∈ written, relation value entry :=
  exists_of_forall₂ lists.1.flip member

/-- Each of the values has an entry. -/
theorem exists_entry (lists : Lists relation written listed) {value : α}
    (member : value ∈ written) : ∃ entry ∈ listed.getD [], relation value entry :=
  exists_of_forall₂ lists.1 member

end Lists

/-- Whether a call passes on an argument. -/
def Call.Repeats (parameters : List String) (argument : Argument) (call : Call) : Prop :=
  call.name = argument.name ∧ argument.value.argument parameters = .ok call.value

/-- Whether the node of a directive has its name and its arguments. -/
def DirectiveNode.Repeats (parameters : List String) (directive : Directive)
    (node : DirectiveNode) : Prop :=
  node.name = directive.name ∧
    List.Forall₂ (fun argument (entry : String × ArgumentValue) =>
      entry.1 = argument.name ∧ argument.value.argument parameters = .ok entry.2)
      directive.arguments node.arguments

/-- The directives that nodes repeat: all but `@relay`. -/
def Directive.repeated (directives : List Directive) : List Directive :=
  directives.filter (·.name ≠ relayName)

/-- Whether a call has to name the type of its parameter, since the type cannot be
inferred from a value. -/
def SchemaType.isNoted (type : SchemaType) : Bool :=
  type.isEnum || type.isInputObject || type.isCustomScalar

/-- The fact that names the type of a parameter. -/
def SchemaArgument.noted (parameter : SchemaArgument) : Metadata :=
  Metadata.empty.set "type" (.string parameter.type.text)

namespace Build

variable {context : Context} {declared : SchemaField} {head : Field} {argument : Argument}
variable {parameters : List String}

/-! ## Calls -/

/-- What a call was made from. -/
structure CallParts (context : Context) (declared : SchemaField) (argument : Argument)
    (made : Call) : Prop where
  repeats : made.Repeats context.parameters argument
  isDeclared : ∃ parameter, declared.argument? argument.name = some parameter ∧
    made.metadata = if parameter.type.isNoted then parameter.noted else .empty

theorem call_parts {made : Call} (returned : call context head declared argument = .ok made) :
    CallParts context declared argument made := by
  unfold call at returned
  cases found : declared.argument? argument.name with
  | none =>
    rw [found] at returned
    cases returned
  | some parameter =>
    rw [found] at returned
    obtain ⟨value, isValue, returned⟩ := exists_of_bind_eq_ok returned
    cases returned
    exact ⟨⟨rfl, isValue⟩, parameter, found, rfl⟩

/-- The calls of a field were made from its arguments. -/
theorem calls_parts {made : Option (List Call)}
    (returned : calls context head declared = .ok made) :
    Lists (CallParts context declared) head.arguments made := by
  unfold calls at returned
  cases written : head.arguments with
  | nil =>
    rw [written] at returned
    cases returned
    exact .none
  | cons first others =>
    rw [written] at returned
    obtain ⟨listed, areListed, returned⟩ := exists_of_bind_eq_ok returned
    cases returned
    exact .some ((forall₂_of_mapM_eq_ok areListed).imp fun _ _ => call_parts)

/-- What the calls and facts of the root field of a query were made from: its one
argument, or nothing. -/
inductive QueryCallParts (context : Context) (head : Field) (declared : SchemaField) :
    List (String × Literal) → Option (List Call) → Prop where
  | identifying {argument : Argument} {parameter : SchemaArgument} {value : ArgumentValue}
      (isOnly : head.arguments = [argument])
      (isDeclared : declared.argument? argument.name = some parameter)
      (isValue : argument.value.argument context.parameters = .ok value) :
      QueryCallParts context head declared
        [("identifyingArgName", .string argument.name),
          ("identifyingArgType", .string parameter.type.text)]
        (some [⟨argument.name, parameter.noted, value⟩])
  | nothing (notOne : head.arguments.length ≠ 1) : QueryCallParts context head declared [] none

theorem queryCalls_parts {facts : List (String × Literal)} {made : Option (List Call)}
    (returned : queryCalls context head declared = .ok (facts, made)) :
    QueryCallParts context head declared facts made := by
  unfold queryCalls at returned
  split at returned
  next argument isOnly =>
    obtain ⟨result, isResult, returned⟩ := exists_of_bind_eq_ok returned
    cases returned
    unfold identifyingCall at isResult
    cases found : declared.argument? argument.name with
    | none =>
      rw [found] at isResult
      cases isResult
    | some parameter =>
      rw [found] at isResult
      obtain ⟨value, isValue, isResult⟩ := exists_of_bind_eq_ok isResult
      cases isResult
      exact .identifying isOnly found isValue
  next notOne =>
    cases returned
    refine .nothing fun one => ?_
    obtain ⟨argument, isOnly⟩ := List.length_eq_one_iff.mp one
    exact notOne argument isOnly

/-! ## Directives -/

theorem directiveNode_repeats {directive : Directive} {node : DirectiveNode}
    (returned : directive.node parameters = .ok node) : node.Repeats parameters directive := by
  obtain ⟨arguments, areArguments, returned⟩ := exists_of_bind_eq_ok returned
  cases returned
  refine ⟨rfl, (forall₂_of_mapM_eq_ok areArguments).imp ?_⟩
  intro argument entry made
  obtain ⟨value, isValue, made⟩ := exists_of_bind_eq_ok made
  cases made
  exact ⟨rfl, isValue⟩

theorem directives_repeat {directives : List Directive} {made : Option (List DirectiveNode)}
    (returned : Directive.nodes parameters directives = .ok made) :
    Lists (DirectiveNode.Repeats parameters) (Directive.repeated directives) made := by
  obtain ⟨nodes, areNodes, returned⟩ := exists_of_bind_eq_ok returned
  have related : List.Forall₂ (DirectiveNode.Repeats parameters) (Directive.repeated directives)
      nodes := (forall₂_of_mapM_eq_ok areNodes).imp fun _ _ => directiveNode_repeats
  generalize Directive.repeated directives = written at related
  cases related with
  | nil =>
    cases returned
    exact .none
  | cons first others =>
    cases returned
    exact .some (.cons first others)

end Build

end QueryTree
