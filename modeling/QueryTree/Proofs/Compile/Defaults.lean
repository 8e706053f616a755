import QueryTree.Proofs.Compile.Variables
import QueryTree.Proofs.Document.CanonicalStripped

/-!
# Default values

A default value is written in one of two places: behind a variable that an operation
declares, where the grammar admits constants only, or in the object that declares an
argument of a fragment, where it admits any value.  What is written is passed on as it
is, so the defaults of an operation are always constant, and those of a fragment are
exactly if they are written so.
-/

namespace QueryTree

/-- A default value has the variables that are written in it. -/
theorem DefaultOf.variableUses {written : Option Value} {default : Literal}
    (made : DefaultOf written default) :
    default.variableUses = (written.elim [] Value.variableNames).map fun name => (name, false) := by
  cases made with
  | absent => rfl
  | written made => exact Value.literal_variableUses made

theorem DefaultOf.variableUses_eq_nil_iff {written : Option Value} {default : Literal}
    (made : DefaultOf written default) :
    default.variableUses = [] ↔ ∀ value ∈ written, value.variableNames = [] := by
  rw [made.variableUses]
  cases written with
  | none => simp
  | some value => simp

namespace Definition

/-- Whether a fragment declares the variables it refers to with constants for default
values.  Nothing is asked of an operation. -/
def DeclaresConstants (definition : Definition) : Prop :=
  definition.kind = .fragment → ∀ value ∈ definition.noted, ∀ name ∈ value.variableNames,
    ∀ default ∈ ArgumentDefinition.declaredDefault? definition.declaredArguments name,
      default.variableNames = []

instance (definition : Definition) : Decidable definition.DeclaresConstants :=
  inferInstanceAs (Decidable (_ → _))

end Definition

namespace Compiler

variable {compiler : Compiler} {definition : Definition} {scope : Scope} {validation : Bool}
  {artifact : Artifact}

namespace Parts

variable (parts : Parts compiler definition scope validation artifact)

include parts

theorem mem_variableNames (name : String) :
    name ∈ parts.form.variableNames ↔ ∃ value ∈ definition.noted, name ∈ value.variableNames := by
  rw [(Definition.notes_of_normalize parts.normal).1, Tables.noteAll, Tables.mem_foldl_note]
  simp

/-- The formal arguments of a fragment have the names of its variables. -/
theorem names_of_fragment (isFragment : definition.kind = .fragment) :
    artifact.arguments.map (·.name) = parts.form.variableNames := by
  rw [← List.map_id parts.form.variableNames]
  exact map_of_mapM_eq_ok (parts.arguments_of_fragment isFragment)
    fun made => (ArgumentDefinition.ofReference_origin made).1

/-- The default values of an operation that was read are constant. -/
theorem constant_of_operation (isRead : definition.IsRead)
    (isOperation : definition.kind.isOperation = true) :
    ∀ argument ∈ artifact.arguments, argument.default.variableUses = [] := by
  intro argument member
  obtain ⟨declared, isDeclared, _, made⟩ := parts.default_of_operation isOperation member
  rw [made.variableUses_eq_nil_iff]
  exact isRead.readable.defaults declared isDeclared

theorem constant_iff_of_fragment (isFragment : definition.kind = .fragment) :
    (∀ argument ∈ artifact.arguments, argument.default.variableUses = []) ↔
      definition.DeclaresConstants := by
  have ofNames : ∀ name, name ∈ artifact.arguments.map (·.name) ↔
      ∃ value ∈ definition.noted, name ∈ value.variableNames := by
    intro name
    rw [parts.names_of_fragment isFragment]
    exact parts.mem_variableNames name
  constructor
  · intro constant _ value isNoted name isName default isDefault
    obtain ⟨argument, member, rfl⟩ := List.mem_map.mp ((ofNames name).mpr ⟨value, isNoted, isName⟩)
    have made := parts.default_of_fragment isFragment member
    exact made.variableUses_eq_nil_iff.mp (constant argument member) default isDefault
  · intro declares argument member
    have made := parts.default_of_fragment isFragment member
    obtain ⟨value, isNoted, isName⟩ := (ofNames _).mp (List.mem_map_of_mem member)
    exact made.variableUses_eq_nil_iff.mpr (declares isFragment value isNoted _ isName)

end Parts

/-- The default values of an artifact are made from what is written for its formal
arguments.  Those of an operation are constant, and all default values are exactly if
a fragment declares constants for the variables that it refers to. -/
theorem compile_defaults (isRead : definition.IsRead)
    (compiled : compiler.compile definition scope validation = .ok artifact) :
    (∀ argument ∈ artifact.arguments, ∃ written,
      definition.WritesDefault argument.name written ∧ DefaultOf written argument.default) ∧
    (definition.kind.isOperation = true →
      ∀ argument ∈ artifact.arguments, argument.default.variableUses = []) ∧
    ((∀ argument ∈ artifact.arguments, argument.default.variableUses = []) ↔
      definition.DeclaresConstants) := by
  obtain ⟨parts⟩ := compile_parts compiled
  refine ⟨fun _ => parts.writesDefault, parts.constant_of_operation isRead, ?_⟩
  cases parts.isOperation_or_fragment with
  | inl isOperation =>
    have constant := parts.constant_of_operation isRead isOperation
    have declares : definition.DeclaresConstants := by
      intro isFragment
      rw [isFragment] at isOperation
      cases isOperation
    exact iff_of_true constant declares
  | inr isFragment => exact parts.constant_iff_of_fragment isFragment

end Compiler

namespace Sample

/-- A user whose name is given in a size. -/
def sizedSchema : Schema :=
  { viewerSchema with
    types :=
      [⟨.object, "User", [], [],
          [{ plainField "name" (optional "Int") with
            arguments := [parameter "size" (optional "Int")] }], [], [], "", false, .unknown⟩,
        ⟨.scalar, "Int", [], [], [], [], [], "", true, .unknown⟩] }

/-- A fragment for the name in a size, with what is declared of its arguments. -/
def sizedText (declared : String) : String :=
  "fragment F on User @argumentDefinitions(" ++ declared ++ ") \x7bname(size: $size)\x7d"

/-- A default value that another one replaces, and one that is never used. -/
def constantText : String :=
  sizedText ("size: \x7bdefaultValue: $other, defaultValue: [1, \x7bx: B\x7d]\x7d, " ++
    "unused: \x7bdefaultValue: $other\x7d")

/-- A default value with a variable. -/
def variableText : String := sizedText "size: \x7btype: \"Int\", defaultValue: $other\x7d"

/-- What a definition is compiled to. -/
def compileSized (definition : Definition) : Except Failure Artifact :=
  (Compiler.make sizedSchema .default).compile definition .empty true

end Sample

theorem Compiler.constantText_defaults : ∃ definition artifact,
    definition.IsRead ∧ Sample.compileSized definition = .ok artifact ∧
      artifact.arguments.map (fun argument => (argument.name, argument.origin)) =
        [("size", .local)] ∧
      definition.DeclaresConstants ∧
      ∀ argument ∈ artifact.arguments, argument.default.variableUses = [] := by
  have evaluated : (Definition.parseAll "a" Sample.constantText).toOption.map
      (List.map fun definition => (decide definition.DeclaresConstants,
        (Sample.compileSized definition).toOption.map fun artifact =>
          artifact.arguments.map fun argument => (argument.name, argument.origin))) =
        some [(true, some [("size", .local)])] := by decide +kernel
  obtain ⟨definition, parsed, same⟩ := exists_singleton_of_map evaluated
  obtain ⟨declares, compiled⟩ := Prod.mk.inj same
  obtain ⟨artifact, compiled, arguments⟩ := exists_of_toOption_map compiled
  have isRead := Definition.isRead_of_parseAll parsed definition List.mem_cons_self
  have constants := of_decide_eq_true declares
  exact ⟨definition, artifact, isRead, compiled, arguments, constants,
    (compile_defaults isRead compiled).2.2.mpr constants⟩

/-- A fragment can declare a variable for the default value of an argument: it stays in
the artifact, which has no argument of that name. -/
theorem Compiler.variableText_default : ∃ definition artifact,
    definition.IsRead ∧ Sample.compileSized definition = .ok artifact ∧
      artifact.arguments.map (·.name) = ["size"] ∧
      artifact.arguments.flatMap (·.default.variableUses) = [("other", false)] := by
  have evaluated : (Definition.parseAll "a" Sample.variableText).toOption.map
      (List.map fun definition => (Sample.compileSized definition).toOption.map fun artifact =>
        (artifact.arguments.map (·.name), artifact.arguments.flatMap (·.default.variableUses))) =
        some [some (["size"], [("other", false)])] := by decide +kernel
  obtain ⟨definition, parsed, same⟩ := exists_singleton_of_map evaluated
  obtain ⟨artifact, compiled, arguments⟩ := exists_of_toOption_map same
  obtain ⟨names, uses⟩ := Prod.mk.inj arguments
  have isRead := Definition.isRead_of_parseAll parsed definition List.mem_cons_self
  exact ⟨definition, artifact, isRead, compiled, names, uses⟩

end QueryTree
