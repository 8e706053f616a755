import QueryTree.Document.Source
import QueryTree.Proofs.Language.WellFormed

/-!
# Well-formed definitions

A well-formed definition is an operation or a fragment whose names are spelled like
names, at any depth of its selections.  Only operations declare variables and only
fragments have a type condition.  What holds of everything that is read as a definition
holds of all definitions of a source.
-/

namespace QueryTree

namespace Selection

mutual

/-- Whether the names and values in a selection are spelled like such. -/
def WellFormed : Selection → Prop
  | .field head selections =>
    (∀ other, head.alias? = some other → IsName other) ∧ IsName head.name ∧
      Value.FieldsWellFormed head.arguments ∧
      (∀ directive ∈ head.directives, directive.WellFormed) ∧ AllWellFormed selections
  | .spread head => IsName head.name ∧ ∀ directive ∈ head.directives, directive.WellFormed
  | .inline head selections =>
    (∀ condition, head.condition = some condition → IsName condition) ∧
      (∀ directive ∈ head.directives, directive.WellFormed) ∧ AllWellFormed selections

/-- Whether all selections of a selection set are well formed. -/
def AllWellFormed : List Selection → Prop
  | [] => True
  | selection :: selections => WellFormed selection ∧ AllWellFormed selections

end

theorem allWellFormed_iff {selections : List Selection} :
    AllWellFormed selections ↔ ∀ selection ∈ selections, selection.WellFormed := by
  induction selections with
  | nil => simp [AllWellFormed]
  | cons selection selections ih => simp [AllWellFormed, ih]

end Selection

/-- Whether the name, the type and the default value of a declared variable are
well formed. -/
structure VariableDefinition.WellFormed (declared : VariableDefinition) : Prop where
  name : IsName declared.name
  type : declared.type.WellFormed
  default : ∀ value, declared.default = some value → value.WellFormed

/-- Whether the name and the condition of a definition fit its kind. -/
def Definition.HeadWellFormed (definition : Definition) : Prop :=
  match definition.kind with
  | .fragment =>
    IsName definition.name ∧ IsName definition.condition ∧ definition.variableDefinitions = []
  | .other _ => False
  | _ => (definition.name = "" ∨ IsName definition.name) ∧ definition.condition = ""

/-- Whether a definition is an operation or a fragment with well formed parts. -/
structure Definition.WellFormed (definition : Definition) : Prop where
  head : definition.HeadWellFormed
  declarations : ∀ declared ∈ definition.variableDefinitions, declared.WellFormed
  directives : ∀ directive ∈ definition.directives, directive.WellFormed
  selections : Selection.AllWellFormed definition.selections

/-! ## Reading executable documents -/

theorem Grammar.isOperation_of_operationKind? {word : String} {kind : DefinitionKind}
    (found : operationKind? word = some kind) : kind.isOperation = true := by
  unfold operationKind? at found
  split at found
  · cases found
    rfl
  split at found
  · cases found
    rfl
  split at found
  · cases found
    rfl
  · cases found

/-- Whether all operations and fragments of a document have a property. -/
def Document.Every (good : Definition → Prop) (document : Document) : Prop :=
  (∀ definition ∈ document.operations, good definition) ∧
    ∀ definition ∈ document.fragments, good definition

namespace Grammar

open QueryTree.Parser

variable {good : Definition → Prop}

/-- The number of tokens bounds both the depth and the number of definitions. -/
theorem document_apply (tokens : List Token) :
    document tokens = definitionsUpTo tokens.length tokens.length tokens := rfl

theorem every_empty : Document.Every good ⟨[], []⟩ :=
  ⟨List.forall_mem_nil _, List.forall_mem_nil _⟩

/-- A property of everything that is read as a definition holds throughout a
document. -/
theorem definitionsUpTo_every {depth : Nat}
    (operations : ∀ kind, kind.isOperation = true → Yields (operation kind depth) good)
    (bareQueries : Yields (bareQuery depth) good) (fragments : Yields (fragment depth) good)
    (bound : Nat) : Yields (definitionsUpTo depth bound) (Document.Every good) := by
  have every {first : Definition} {others : List Definition} (holds : good first)
      (rest : ∀ definition ∈ others, good definition) :
      ∀ definition ∈ first :: others, good definition := List.forall_mem_cons.mpr ⟨holds, rest⟩
  induction bound with
  | zero => exact .pure every_empty
  | succ bound ih =>
    refine .bind peek_yields fun token _ => ?_
    split
    · exact .pure every_empty
    · exact .bind bareQueries fun _ holds => .bind ih fun _ others =>
        .pure ⟨every holds others.1, others.2⟩
    · split
      next kind found =>
        exact .bind (operations kind (isOperation_of_operationKind? found)) fun _ holds =>
          .bind ih fun _ others => .pure ⟨every holds others.1, others.2⟩
      next =>
        refine .ite (fun _ => ?_) fun _ => refuse_yields token
        exact .bind fragments fun _ holds => .bind ih fun _ others =>
          .pure ⟨others.1, every holds others.2⟩
    · exact refuse_yields token

end Grammar

namespace Definition

variable {definitions : List Definition} {source text : String}

/-- The tokens of a source are read as a document with its definitions. -/
theorem exists_of_parseAll (read : Definition.parseAll source text = .ok definitions) :
    ∃ document rest, Grammar.document (Token.withoutComments none (lex source text)) =
      .ok (document, rest) ∧ definitions = document.definitions := by
  unfold Definition.parseAll Document.parse at read
  cases outcome : Grammar.document.run (Token.withoutComments none (lex source text)) with
  | error fault =>
    rw [outcome] at read
    cases read
  | ok result =>
    rw [outcome] at read
    cases read
    exact ⟨result.1, result.2, outcome, rfl⟩

theorem parseAll_eq_ok {document : Document} {rest : List Token}
    (read : Grammar.document (Token.withoutComments none (lex source text)) =
      .ok (document, rest)) : Definition.parseAll source text = .ok document.definitions := by
  unfold Definition.parseAll Document.parse StateT.run
  rw [read]
  rfl

/-- A property of everything that is read as a definition holds of the definitions
of a source. -/
theorem forall_of_parseAll {good : Definition → Prop}
    (operations : ∀ depth kind, kind.isOperation = true →
      Parser.Yields (Grammar.operation kind depth) good)
    (bareQueries : ∀ depth, Parser.Yields (Grammar.bareQuery depth) good)
    (fragments : ∀ depth, Parser.Yields (Grammar.fragment depth) good)
    (read : Definition.parseAll source text = .ok definitions) :
    ∀ definition ∈ definitions, good definition := by
  intro definition member
  obtain ⟨document, rest, found, rfl⟩ := exists_of_parseAll read
  rw [Grammar.document_apply] at found
  obtain ⟨⟨operations, fragments⟩, _⟩ := Grammar.definitionsUpTo_every (operations _)
    (bareQueries _) (fragments _) _ _ (isSpelled_lex source text) document rest found
  have listed := (List.mem_mergeSort ..).mp member
  rcases List.mem_append.mp listed with operation | fragment
  · exact operations definition operation
  · exact fragments definition fragment

end Definition

end QueryTree
