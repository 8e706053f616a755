import QueryTree.Proofs.Build.Buildable
import QueryTree.Proofs.Build.Repeated

/-!
# Arguments that are declared

Wherever a field stands in a definition that has a tree, its arguments are declared,
with one exception: of the root field of a mutation or a subscription only the number
of its arguments is checked.  Such a field declares the input argument and no other,
so that it may be given an argument that does not exist.
-/

namespace QueryTree

/-- Whether a field of a type is declared with all arguments that it is given. -/
def Schema.DeclaresArguments (schema : Schema) (parent : SchemaType) (head : Field) : Prop :=
  ∃ declared, schema.field? parent head.name = some declared ∧
    ∀ argument ∈ head.arguments, declared.declares argument.name = true

theorem Schema.declaresArguments_iff {schema : Schema} {parent : SchemaType} {head : Field}
    {declared : SchemaField} (found : schema.field? parent head.name = some declared) :
    schema.DeclaresArguments parent head ↔
      ∀ argument ∈ head.arguments, declared.declares argument.name = true := by
  simp [Schema.DeclaresArguments, found]

/-- Whether a field is given no argument but one of a name. -/
def Field.GivesOnly (head : Field) (name : String) : Prop :=
  ∀ argument ∈ head.arguments, argument.name = name

instance (head : Field) (name : String) : Decidable (head.GivesOnly name) :=
  inferInstanceAs (Decidable (∀ argument ∈ head.arguments, argument.name = name))

/-! ## Checked arguments -/

namespace Build

variable {context : Context} {head : Field} {declared : SchemaField}

theorem calls_declare (succeeds : Succeeds (calls context head declared)) :
    ∀ argument ∈ head.arguments, declared.declares argument.name = true := by
  obtain ⟨made, succeeded⟩ := succeeds
  intro argument member
  obtain ⟨call, _, parts⟩ := (calls_parts succeeded).exists_entry member
  obtain ⟨parameter, found, _⟩ := parts.isDeclared
  rw [SchemaField.declares, found, Option.isSome_some]

/-- The one argument of the root field of a query. -/
theorem queryCalls_declare (arity : Rule.queryRootFieldArity head = .ok ())
    (succeeds : Succeeds (queryCalls context head declared)) :
    ∀ argument ∈ head.arguments, declared.declares argument.name = true := by
  have atMostOne : head.arguments.length ≤ 1 := by
    unfold Rule.queryRootFieldArity at arity
    split at arity
    next atMost => exact atMost
    next => cases arity
  obtain ⟨⟨facts, calls⟩, succeeded⟩ := succeeds
  cases queryCalls_parts succeeded with
  | identifying isOnly found => simp [isOnly, SchemaField.declares, found]
  | nothing notOne =>
    have none : head.arguments = [] := List.length_eq_zero_iff.mp (by omega)
    simp [none]

/-- The root field of a mutation or a subscription declares the input argument only. -/
theorem declares_iff_of_mutationField {inputArgument name : String}
    (accepted : Rule.mutationField head declared inputArgument = .ok ()) :
    declared.declares name = true ↔ name = inputArgument := by
  unfold Rule.mutationField at accepted
  split at accepted
  next argument one =>
    split at accepted
    next => cases accepted
    next named =>
      rw [← not_not.mp named]
      simp only [SchemaField.declares, SchemaField.argument?, one, List.find?_isSome,
        List.mem_singleton, exists_eq_left, decide_eq_true_eq]
      exact eq_comm
  next => cases accepted

end Build

/-! ## Visited selection sets -/

namespace Definition

variable {schema : Schema} {options : BuildOptions} {definition : Definition}

section

variable (buildable : definition.Buildable schema options)

include buildable

/-- Every selection set that is visited can be built. -/
theorem Buildable.allBuildable {kind : NodeKind} {type : SchemaType} {selections : List Selection}
    (visited : definition.Visits schema kind type selections) :
    Selection.AllBuildable (definition.innerContext schema options) kind type selections := by
  induction visited with
  | operation isRoot isFirst isDeclared =>
    cases buildable with
    | operation isSame _ isSelected isFound _ below =>
      cases isRoot.symm.trans isSame
      cases isFirst.symm.trans isSelected
      cases isDeclared.symm.trans isFound
      exact below
    | fragment isFragment =>
      rw [isFragment] at isRoot
      cases isRoot
  | fragment isFragment found =>
    cases buildable with
    | operation isRoot =>
      rw [isFragment] at isRoot
      cases isRoot
    | fragment _ isType _ below =>
      cases found.symm.trans isType
      exact below
  | @inside kind parent type siblings inner selection visited member opens ih =>
    have inside := ih.each selection member
    cases selection with
    | field head below =>
      obtain ⟨declared, found, _, all, _⟩ := Selection.buildable_field_iff.mp inside
      rw [innerContext_schema] at found
      cases opens with
      | field isDeclared =>
        cases isDeclared.symm.trans found
        exact all
    | spread head => cases opens
    | inline head below =>
      obtain ⟨other, again, all, _⟩ := Selection.buildable_inline_iff.mp inside
      rw [innerContext_schema] at again
      obtain ⟨rfl, rfl⟩ := opens.unique again
      exact all

/-- What is built from the fields below the root has declared arguments. -/
theorem Buildable.declaresArguments {kind : NodeKind} {parent : SchemaType}
    {siblings inner : List Selection} {head : Field}
    (visited : definition.Visits schema kind parent siblings)
    (member : .field head inner ∈ siblings) : schema.DeclaresArguments parent head := by
  obtain ⟨declared, found, _, _, valid⟩ :=
    Selection.buildable_field_iff.mp ((buildable.allBuildable visited).each _ member)
  rw [innerContext_schema] at found
  exact ⟨declared, found, Build.calls_declare valid.calls⟩

theorem Buildable.declaresArguments_root_iff {type : SchemaType} {selected : SelectedField}
    (isRoot : schema.rootType? definition.kind = some type)
    (isFirst : definition.first? = some selected) :
    schema.DeclaresArguments type selected.field ↔
      definition.kind = .query ∨ selected.field.GivesOnly options.inputArgument := by
  cases buildable with
  | fragment isFragment =>
    rw [isFragment] at isRoot
    cases isRoot
  | @operation _ _ declared isSame _ isSelected found called =>
    cases isRoot.symm.trans isSame
    cases isFirst.symm.trans isSelected
    cases kind : definition.kind with
    | query =>
      rw [kind] at called
      obtain ⟨arity, calls⟩ := called
      exact iff_of_true ⟨declared, found, Build.queryCalls_declare arity calls⟩ (.inl rfl)
    | mutation | subscription =>
      rw [kind] at called
      rw [Schema.declaresArguments_iff found, Field.GivesOnly]
      simp [Build.declares_iff_of_mutationField called]
    | fragment | other =>
      rw [kind] at isRoot
      cases isRoot

end

/-- Every argument in a definition that has a tree is declared, except that the root
field of a mutation or a subscription may be given an argument other than the input. -/
theorem build_declaresArguments {root : Root}
    (built : definition.build schema options = .ok root) :
    (∀ kind parent siblings head inner, definition.Visits schema kind parent siblings →
      .field head inner ∈ siblings → schema.DeclaresArguments parent head) ∧
    ∀ type selected, schema.rootType? definition.kind = some type →
      definition.first? = some selected →
      (schema.DeclaresArguments type selected.field ↔
        definition.kind = .query ∨ selected.field.GivesOnly options.inputArgument) := by
  have buildable : definition.Buildable schema options := succeeds_build_iff.mp ⟨root, built⟩
  exact ⟨fun kind parent siblings head inner => buildable.declaresArguments,
    fun type selected => buildable.declaresArguments_root_iff⟩

end Definition

/-! ## A mutation with another argument -/

namespace Sample

/-- Likes are counted, from a number on. -/
def likeSchema : Schema where
  types :=
    [⟨.object, "Query", [], [], [plainField "a" (optional "Int")], [], [], "", false, .unknown⟩,
      ⟨.object, "Mutation", [], [],
        [{ plainField "like" (optional "Like") with
          arguments := [parameter "input" (optional "Int")] }], [], [], "", false, .unknown⟩,
      ⟨.object, "Like", [], [],
        [{ plainField "count" (optional "Int") with
          arguments := [parameter "of" (optional "Int")] }], [], [], "", false, .unknown⟩,
      ⟨.scalar, "Int", [], [], [], [], [], "", true, .unknown⟩]
  directives := []
  query := some "Query"
  mutation := some "Mutation"
  subscription := none
  names := .camelCase

/-- The field of the mutation with an argument of a name. -/
def likeField (name : String) : Field :=
  { Build.bareField "like" with arguments := [argument name (.int "1" .unknown)] }

/-- A field with an argument that it declares. -/
def countField : Field :=
  { Build.bareField "count" with arguments := [argument "of" (.int "2" .unknown)] }

/-- A mutation that gives its field an argument of a name. -/
def likeMutation (name : String) : Definition where
  kind := .mutation
  name := "M"
  condition := ""
  variableDefinitions := []
  directives := []
  selections := [.field (likeField name) [.field countField []]]
  position := .unknown

end Sample

/-- The input and the argument of the field below it are declared. -/
theorem Definition.likeMutation_declaresArguments :
    ∃ root type kind parent siblings,
      (Sample.likeMutation "input").build Sample.likeSchema (Sample.options true) = .ok root ∧
      Sample.likeSchema.rootType? .mutation = some type ∧
      Sample.likeSchema.DeclaresArguments type (Sample.likeField "input") ∧
      (Sample.likeMutation "input").Visits Sample.likeSchema kind parent siblings ∧
      .field Sample.countField [] ∈ siblings ∧
      Sample.likeSchema.DeclaresArguments parent Sample.countField := by
  obtain ⟨type, isRoot⟩ : ∃ type, Sample.likeSchema.rootType? .mutation = some type :=
    Option.isSome_iff_exists.mp (by decide)
  obtain ⟨root, built⟩ : ∃ root, (Sample.likeMutation "input").build Sample.likeSchema
      (Sample.options true) = .ok root := exists_of_isOk (by decide +kernel)
  obtain ⟨ofBelow, ofRoot⟩ := Definition.build_declaresArguments built
  obtain ⟨declared, found, input⟩ := (ofRoot type _ isRoot rfl).mpr (.inr (by decide))
  have visited : (Sample.likeMutation "input").Visits Sample.likeSchema _ declared.type _ :=
    .operation isRoot rfl found
  exact ⟨root, type, _, _, _, built, isRoot, ⟨declared, found, input⟩, visited, List.mem_cons_self,
    ofBelow _ _ _ _ _ visited List.mem_cons_self⟩

/-- A mutation has a tree although its field does not declare the argument that it is
given. -/
theorem Definition.likeMutation_undeclared :
    ∃ root type selected,
      (Sample.likeMutation "bogus").build Sample.likeSchema (Sample.options true) = .ok root ∧
      Sample.likeSchema.rootType? .mutation = some type ∧
      (Sample.likeMutation "bogus").first? = some selected ∧
      ¬ Sample.likeSchema.DeclaresArguments type selected.field := by
  obtain ⟨type, isRoot⟩ : ∃ type, Sample.likeSchema.rootType? .mutation = some type :=
    Option.isSome_iff_exists.mp (by decide)
  obtain ⟨root, built⟩ : ∃ root, (Sample.likeMutation "bogus").build Sample.likeSchema
      (Sample.options true) = .ok root := exists_of_isOk (by decide +kernel)
  have buildable := Definition.succeeds_build_iff.mp ⟨root, built⟩
  refine ⟨root, type, _, built, isRoot, rfl, fun declares => ?_⟩
  exact absurd ((buildable.declaresArguments_root_iff isRoot rfl).mp declares) (by decide)

end QueryTree
