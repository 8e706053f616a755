import QueryTree.Proofs.Compile.Slots

/-!
# Formal arguments

The formal arguments of an operation are read from the variables that it declares,
and those of a fragment from what it declares of the variables that it refers to.
What reads a declaration keeps the name and the origin of the argument, and the
last default value counts.
-/

namespace QueryTree

/-! ## Default values -/

/-- What a default value is made from: what is written, with no variable substituted,
or null if nothing is. -/
inductive DefaultOf : Option Value → Literal → Prop where
  | absent : DefaultOf none .null
  | written {value : Value} {literal : Literal} (made : value.literal [] = .ok literal) :
    DefaultOf (some value) literal

namespace ArgumentDefinition

/-- The default value among the entries of a declaration: the last one counts. -/
def lastDefault? (entries : List (Named Value)) : Option Value :=
  (entries.reverse.find? (·.name = "defaultValue")).map (·.value)

/-- The default value that an entry gives. -/
def entryDefault? (entry : Named Value) : Option Value :=
  if entry.name = "defaultValue" then some entry.value else none

theorem lastDefault?_cons (entry : Named Value) (entries : List (Named Value)) :
    lastDefault? (entry :: entries) = (lastDefault? entries).or (entryDefault? entry) := by
  unfold lastDefault? entryDefault?
  rw [List.reverse_cons, List.find?_append, Option.map_or]
  by_cases isDefault : entry.name = "defaultValue"
  · simp [isDefault]
  · simp [isDefault]

theorem mem_of_lastDefault? {entries : List (Named Value)} {value : Value}
    (found : lastDefault? entries = some value) : ∃ entry ∈ entries, entry.value = value := by
  obtain ⟨entry, isEntry, isValue⟩ := Option.map_eq_some_iff.mp found
  exact ⟨entry, List.mem_reverse.mp (List.mem_of_find?_eq_some isEntry), isValue⟩

/-- The default value in what a declaration says of its argument. -/
def objectDefault? : Value → Option Value
  | .object entries _ => lastDefault? entries
  | _ => none

/-- The default value that a name is first declared with. -/
def declaredDefault? (declarations : List Argument) (name : String) : Option Value :=
  (Named.find? name declarations).bind fun declaration => objectDefault? declaration.value

/-! ## Reading declarations -/

/-- Whether a formal argument has a name and an origin, and a default value made from
what is written. -/
structure IsFormal (name : String) (origin : ArgumentOrigin) (written : Option Value)
    (argument : ArgumentDefinition) : Prop where
  name : argument.name = name
  origin : argument.origin = origin
  default : DefaultOf written argument.default

variable {argument next : ArgumentDefinition} {declaration : Argument} {name : String}
variable {origin : ArgumentOrigin} {written : Option Value}

/-- An entry of a declaration may change the default value only. -/
theorem IsFormal.readEntry {entry : Named Value} (start : argument.IsFormal name origin written)
    (read : readEntry declaration argument entry = .ok next) :
    next.IsFormal name origin ((entryDefault? entry).or written) := by
  unfold ArgumentDefinition.readEntry at read
  unfold entryDefault?
  split at read
  next isType =>
    have other : entry.name ≠ "defaultValue" := by
      rw [isType]
      decide
    rw [if_neg other, Option.none_or]
    split at read
    · cases read
      exact ⟨start.name, start.origin, start.default⟩
    · cases read
  next =>
    split at read
    next isDefault =>
      rw [if_pos isDefault, Option.some_or]
      obtain ⟨literal, made, done⟩ := exists_of_bind_eq_ok read
      cases done
      exact ⟨start.name, start.origin, .written made⟩
    next other =>
      rw [if_neg other, Option.none_or]
      cases read
      exact start

theorem IsFormal.readEntries {entries : List (Named Value)}
    (start : argument.IsFormal name origin written)
    (read : entries.foldlM (ArgumentDefinition.readEntry declaration) argument = .ok next) :
    next.IsFormal name origin ((lastDefault? entries).or written) := by
  -- What was written before the entries is replaced by the last one that gives a default value.
  induction entries generalizing argument written with
  | nil =>
    cases read
    exact start
  | cons entry entries ih =>
    rw [List.foldlM_cons] at read
    obtain ⟨middle, first, rest⟩ := exists_of_bind_eq_ok read
    rw [lastDefault?_cons, Option.or_assoc]
    exact ih (start.readEntry first) rest

theorem isFormal_ofDeclaration (made : ofDeclaration declaration = .ok argument) :
    argument.IsFormal declaration.name .local (objectDefault? declaration.value) := by
  unfold ofDeclaration at made
  split at made
  next entries position isObject =>
    have start : IsFormal declaration.name .local none ⟨.local, declaration.name, "", .null⟩ :=
      ⟨rfl, rfl, .absent⟩
    have read := start.readEntries made
    rw [Option.or_none] at read
    rw [isObject]
    exact read
  next => cases made

/-- A formal argument has the name of the variable, and it is local exactly if it is
declared. -/
theorem isFormal_ofReference {declarations : List Argument}
    (made : ofReference declarations name = .ok argument) :
    argument.IsFormal name (if name ∈ declarations.map (·.name) then .local else .root)
      (declaredDefault? declarations name) := by
  unfold ofReference at made
  unfold declaredDefault?
  split at made
  next declaration found =>
    have named : declaration.name = name := by simpa using List.find?_some found
    have isDeclared : name ∈ declarations.map (·.name) :=
      named ▸ List.mem_map_of_mem (List.mem_of_find?_eq_some found)
    rw [if_pos isDeclared, found, Option.bind_some, ← named]
    exact isFormal_ofDeclaration made
  next notFound =>
    cases made
    have undeclared : name ∉ declarations.map (·.name) := by
      intro isDeclared
      obtain ⟨declaration, isDeclaration, named⟩ := List.mem_map.mp isDeclared
      have := List.find?_eq_none.mp notFound declaration isDeclaration
      simp [named] at this
    rw [if_neg undeclared, notFound]
    exact ⟨rfl, rfl, .absent⟩

theorem isFormal_ofVariable {declared : VariableDefinition}
    (made : ofVariable declared = .ok argument) :
    argument.IsFormal declared.name .local declared.default := by
  unfold ofVariable at made
  cases isDefault : declared.default with
  | none =>
    rw [isDefault] at made
    cases made
    exact ⟨rfl, rfl, .absent⟩
  | some value =>
    rw [isDefault] at made
    obtain ⟨literal, isLiteral, done⟩ := exists_of_bind_eq_ok made
    cases done
    exact ⟨rfl, rfl, .written isLiteral⟩

end ArgumentDefinition

/-! ## The arguments of an artifact -/

namespace Definition

/-- The arguments that a definition declares in `@argumentDefinitions`. -/
def declaredArguments (definition : Definition) : List Argument :=
  (definition.directives.filter (·.name = argumentDefinitionsName)).flatMap (·.arguments)

/-- What a definition writes as the default value of an argument, if anything. -/
def WritesDefault (definition : Definition) (name : String) (written : Option Value) : Prop :=
  (definition.kind.isOperation = true ∧ ∃ declared ∈ definition.variableDefinitions,
    declared.name = name ∧ declared.default = written) ∨
  (definition.kind = .fragment ∧
    ArgumentDefinition.declaredDefault? definition.declaredArguments name = written)

end Definition

namespace Compiler.Parts

variable {compiler : Compiler} {definition : Definition} {scope : Scope} {validation : Bool}
  {artifact : Artifact} (parts : Parts compiler definition scope validation artifact)

include parts

theorem argumentDefinitions_eq : parts.form.argumentDefinitions = definition.declaredArguments := by
  obtain ⟨_, _, _, _, _, _, declared⟩ := Definition.exists_of_normalize parts.normal
  exact declared

/-- An artifact is that of an operation or of a fragment. -/
theorem isOperation_or_fragment :
    definition.kind.isOperation = true ∨ definition.kind = .fragment :=
  (assemble_parts parts.assembled).arguments.imp And.left And.left

/-- The formal arguments of an operation are made from the variables it declares. -/
theorem arguments_of_operation (isOperation : definition.kind.isOperation = true) :
    definition.variableDefinitions.mapM ArgumentDefinition.ofVariable =
      .ok artifact.arguments := by
  rcases (assemble_parts parts.assembled).arguments with ⟨_, made⟩ | ⟨isFragment, _⟩
  · exact made
  · rw [isFragment] at isOperation
    cases isOperation

/-- The formal arguments of a fragment are made from the variables of its normal
form. -/
theorem arguments_of_fragment (isFragment : definition.kind = .fragment) :
    parts.form.variableNames.mapM
        (ArgumentDefinition.ofReference parts.form.argumentDefinitions) =
      .ok artifact.arguments := by
  rcases (assemble_parts parts.assembled).arguments with ⟨isOperation, _⟩ | ⟨_, made⟩
  · rw [isFragment] at isOperation
    cases isOperation
  · exact made

variable {argument : ArgumentDefinition}

theorem default_of_fragment (isFragment : definition.kind = .fragment)
    (member : argument ∈ artifact.arguments) :
    DefaultOf (ArgumentDefinition.declaredDefault? definition.declaredArguments argument.name)
      argument.default := by
  have made := parts.arguments_of_fragment isFragment
  rw [parts.argumentDefinitions_eq] at made
  obtain ⟨name, _, made⟩ := exists_of_mapM_eq_ok made member
  have formal := ArgumentDefinition.isFormal_ofReference made
  rw [formal.name]
  exact formal.default

theorem default_of_operation (isOperation : definition.kind.isOperation = true)
    (member : argument ∈ artifact.arguments) :
    ∃ declared ∈ definition.variableDefinitions, declared.name = argument.name ∧
      DefaultOf declared.default argument.default := by
  obtain ⟨declared, isDeclared, made⟩ :=
    exists_of_mapM_eq_ok (parts.arguments_of_operation isOperation) member
  have formal := ArgumentDefinition.isFormal_ofVariable made
  exact ⟨declared, isDeclared, formal.name.symm, formal.default⟩

/-- The default value of each formal argument is made from what is written for it. -/
theorem writesDefault (member : argument ∈ artifact.arguments) :
    ∃ written, definition.WritesDefault argument.name written ∧
      DefaultOf written argument.default := by
  cases parts.isOperation_or_fragment with
  | inl isOperation =>
    obtain ⟨declared, isDeclared, named, made⟩ := parts.default_of_operation isOperation member
    exact ⟨declared.default, .inl ⟨isOperation, declared, isDeclared, named, rfl⟩, made⟩
  | inr isFragment =>
    exact ⟨_, .inr ⟨isFragment, rfl⟩, parts.default_of_fragment isFragment member⟩

end Compiler.Parts

end QueryTree
