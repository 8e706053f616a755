import QueryTree.Build.Value
import QueryTree.Proofs.Diagnostic.Agree
import QueryTree.Proofs.Document.Definition

/-!
# Values in a tree do not depend on positions

Literals, arguments, directives and parameters are made from values alike whether
their positions are known or not.
-/

namespace QueryTree

/-! ## Literals and arguments -/

namespace Value

variable (parameters : List String)

theorem literals_eq_mapM (values : List Value) :
    literals parameters values = values.mapM (literal parameters) := by
  induction values with
  | nil => rw [literals, List.mapM_nil]; rfl
  | cons value values ih => rw [literals, List.mapM_cons, ih]

theorem literalFields_eq_mapM (fields : List (Named Value)) :
    literalFields parameters fields =
      fields.mapM fun field => do return (field.name, ← field.value.literal parameters) := by
  induction fields with
  | nil => rw [literalFields, List.mapM_nil]; rfl
  | cons field fields ih =>
    rw [literalFields, List.mapM_cons, ih, bind_assoc]
    rfl

theorem ofNumber_agree (raw : String) (left right : Position) :
    Agree Eq (Literal.ofNumber raw left) (Literal.ofNumber raw right) :=
  .ite (fun _ => .ok rfl) fun _ => .error _ _

variable (value : Value)

/-- A value and the same without positions have the same literal. -/
theorem literal_stripped :
    Agree Eq (value.literal parameters) (value.stripped.literal parameters) := by
  induction value using Value.induction with
  | ofVariable | string | boolean | null | enum =>
    simp only [stripped, literal]
    exact .ok rfl
  | int raw position | float raw position =>
    simp only [stripped, literal]
    exact ofNumber_agree raw _ _
  | list values position ih =>
    simp only [stripped, literal, literals_eq_mapM, strippedAll_eq_map]
    exact (Agree.mapM ih).bindSame fun _ => .pure rfl
  | object fields position ih =>
    simp only [stripped, literal, literalFields_eq_mapM, strippedFields_eq_map]
    refine .bindSame (.mapM fun field member => ?_) fun _ => .pure rfl
    exact (ih field member).bindSame fun _ => .pure rfl

theorem argumentItems_eq_mapM (values : List Value) :
    argumentItems parameters values = values.mapM (argument parameters) := by
  induction values with
  | nil => rw [argumentItems, List.mapM_nil]; rfl
  | cons value values ih => rw [argumentItems, List.mapM_cons, ih]

/-- A value and the same without positions are the same argument. -/
theorem argument_stripped :
    Agree Eq (value.argument parameters) (value.stripped.argument parameters) := by
  induction value using Value.induction with
  | ofVariable =>
    simp only [stripped, argument]
    exact .ok rfl
  | int | float | string | boolean | null | enum | object =>
    simp only [argument, stripped]
    exact (literal_stripped parameters _).bindSame fun _ => .pure rfl
  | list values position ih =>
    simp only [stripped, argument, argumentItems_eq_mapM, strippedAll_eq_map]
    exact (Agree.mapM ih).bindSame fun _ => .pure rfl

theorem isVariable_stripped : value.stripped.isVariable = value.isVariable := by
  cases value <;> rfl

theorem variableNames_stripped : value.stripped.variableNames = value.variableNames := by
  induction value using Value.induction with
  | list values position ih =>
    simp only [stripped, variableNames, namesOfList_eq_flatMap, strippedAll_eq_map,
      List.flatMap_map]
    exact congrArg List.flatten (List.map_congr_left ih)
  | object fields position ih =>
    simp only [stripped, variableNames, namesOfFields_eq_flatMap, strippedFields_eq_map,
      List.flatMap_map]
    exact congrArg List.flatten (List.map_congr_left ih)
  | ofVariable | int | float | string | boolean | null | enum => simp only [stripped, variableNames]

theorem namesOfFields_stripped (arguments : List Argument) :
    namesOfFields (arguments.map Argument.stripped) = namesOfFields arguments := by
  rw [namesOfFields_eq_flatMap, namesOfFields_eq_flatMap, List.flatMap_map]
  exact congrArg List.flatten
    (List.map_congr_left fun argument _ => variableNames_stripped argument.value)

end Value

/-! ## Finding arguments and directives -/

theorem Argument.find?_stripped (name : String) (arguments : List Argument) :
    Named.find? name (arguments.map stripped) = (Named.find? name arguments).map stripped := by
  rw [Named.find?, Named.find?, List.find?_map]
  rfl

namespace Directive

theorem find?_stripped (name : String) (directives : List Directive) :
    find? name (directives.map stripped) = (find? name directives).map stripped := by
  rw [find?, find?, List.find?_map]
  rfl

/-- Choosing directives by their names commutes with stripping them. -/
theorem filter_stripped (keep : String → Bool) (directives : List Directive) :
    (directives.map stripped).filter (fun directive => keep directive.name) =
      (directives.filter fun directive => keep directive.name).map stripped := by
  rw [List.filter_map]
  rfl

theorem node_stripped (parameters : List String) (directive : Directive) :
    Agree Eq (directive.node parameters) (directive.stripped.node parameters) := by
  refine .bindSame (.mapM fun argument _ => ?_) fun _ => .pure rfl
  exact (Value.argument_stripped parameters argument.value).bindSame fun _ => .pure rfl

theorem nodes_stripped (parameters : List String) (directives : List Directive) :
    Agree Eq (nodes parameters directives) (nodes parameters (directives.map stripped)) := by
  rw [nodes, nodes, filter_stripped (fun name => name ≠ relayName)]
  refine .bindSame (.mapM fun directive _ => node_stripped parameters directive) fun found => ?_
  exact .refl _

theorem relayFact_stripped (parameters : List String) (argument : Argument) :
    Agree Eq (relayFact parameters argument) (relayFact parameters argument.stripped) := by
  have literals {value : Value} (same : argument.value = value) :
      Agree Eq
        (if argument.name = relayVariables then .ok []
          else do return [(argument.name, ← value.literal parameters)])
        (if argument.name = relayVariables then .ok []
          else do return [(argument.name, ← value.stripped.literal parameters)] :
            Except Diagnostic (List (String × Literal))) :=
    .ite (fun _ => .ok rfl) fun _ =>
      (Value.literal_stripped parameters value).bindSame fun _ => .pure rfl
  unfold relayFact Argument.stripped
  cases same : argument.value
  case «variable» => exact .error _ _
  all_goals exact literals same

theorem relayFacts_stripped (parameters : List String) (directives : List Directive) :
    Agree Eq (relayFacts parameters directives)
      (relayFacts parameters (directives.map stripped)) := by
  rw [relayFacts, relayFacts, find?_stripped]
  cases find? relayName directives with
  | none => exact .ok rfl
  | some relay =>
    exact .bindSame (.mapM fun argument _ => relayFact_stripped parameters argument)
      fun _ => .pure rfl

theorem parameterName_stripped (item : Value) :
    Agree Eq (parameterName item) (parameterName item.stripped) := by
  cases item
  case string => exact .ok rfl
  all_goals exact .error _ _

theorem parameterNames_stripped (argument : Argument) :
    Agree Eq (parameterNames argument) (parameterNames argument.stripped) := by
  unfold parameterNames Argument.stripped
  cases argument.value
  case list items position =>
    simp only [Value.stripped, Value.strippedAll_eq_map]
    exact .mapM fun item _ => parameterName_stripped item
  all_goals exact .error _ _

/-- The argument of the first `@relay`. -/
theorem relayArgument_stripped (name : String) (directives : List Directive) :
    ((find? relayName (directives.map stripped)).bind fun relay =>
        Named.find? name relay.arguments) =
      ((find? relayName directives).bind fun relay => Named.find? name relay.arguments).map
        Argument.stripped := by
  rw [find?_stripped]
  cases find? relayName directives with
  | none => rfl
  | some relay => exact Argument.find?_stripped name relay.arguments

theorem parameters_stripped (directives : List Directive) :
    Agree Eq (parameters directives) (parameters (directives.map stripped)) := by
  rw [parameters, parameters, relayArgument_stripped]
  cases (find? relayName directives).bind fun relay =>
      Named.find? relayVariables relay.arguments with
  | none => exact .ok rfl
  | some argument => exact (parameterNames_stripped argument).bindSame fun _ => .pure rfl

theorem isPattern_stripped (directives : List Directive) :
    isPattern (directives.map stripped) = isPattern directives := by
  rw [isPattern, isPattern, relayArgument_stripped]
  cases (find? relayName directives).bind fun relay =>
      Named.find? relayPattern relay.arguments with
  | none => rfl
  | some argument =>
    obtain ⟨name, value, position⟩ := argument
    cases value <;> rfl

end Directive

theorem Definition.parameters_stripped (definition : Definition) :
    Agree Eq definition.parameters definition.stripped.parameters :=
  .ite (fun _ => Directive.parameters_stripped definition.directives) fun _ => .ok rfl

end QueryTree
