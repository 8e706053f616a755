import QueryTree.Proofs.Document.Reads
import QueryTree.Proofs.Language.Takes

/-!
# Definitions of a source can be read again

Every definition that is read from a source is well formed, and what the grammar asks
for beyond the spelling of words holds of it: an alias differs from the name, a spread
and a fragment are not called `on`, default values are constant, and where selections
are required there are some.  Every definition takes at least the token it begins with.
-/

namespace QueryTree

namespace Grammar

open QueryTree.Parser

variable (depth : Nat)

/-- An alias that repeats the name counts as none. -/
theorem field_yields : Yields (field depth) fun head =>
    ((∀ other, head.alias? = some other → IsName other) ∧ IsName head.name ∧
      Value.FieldsWellFormed head.arguments ∧
      ∀ directive ∈ head.directives, directive.WellFormed) ∧ head.alias? ≠ some head.name := by
  refine .bind position_yields fun _ _ => .bind name_yields fun first isFirst =>
    .bind (skip_yields _) fun aliased _ =>
      .branch (fun _ => name_yields) (fun _ => .pure isFirst) fun name isName => ?_
  refine .bind (arguments_yields _ _) fun _ arguments =>
    .bind (directives_yields _ _) fun _ directives =>
      .pure ⟨⟨?_, isName, arguments, directives⟩, ?_⟩
  · intro other aliasEq
    dsimp only at aliasEq
    split at aliasEq
    · cases aliasEq
    · cases aliasEq
      exact isFirst
  · dsimp only
    split
    · exact nofun
    next differs => exact fun same => differs (Option.some.inj same)

theorem allReadable {selections : List Selection}
    (every : ∀ selection ∈ selections, selection.WellFormed ∧ selection.Readable) :
    Selection.AllWellFormed selections ∧ Selection.AllReadable selections := by
  constructor
  · exact Selection.allWellFormed_iff.mpr fun selection member => (every selection member).1
  · exact Selection.allReadable_iff.mpr fun selection member => (every selection member).2

/-- Selections in braces after a brace was seen. -/
theorem selections_takes {depth : Nat} {brace : Token}
    (reads : Yields (selection depth) fun selection => selection.WellFormed ∧ selection.Readable)
    (opens : brace.kind = .braceLeft) :
    Takes brace (groupOfSome .braceLeft .braceRight (selection depth)) fun selections =>
      selections ≠ [] ∧ Selection.AllWellFormed selections ∧ Selection.AllReadable selections :=
  (groupOfSome_takes reads .braceRight opens).weaken fun _ ⟨nonempty, every⟩ =>
    ⟨nonempty, allReadable every⟩

theorem selection_yields :
    Yields (selection depth) fun selection => selection.WellFormed ∧ selection.Readable := by
  induction depth with
  | zero => exact refuseNext_yields
  | succ depth ih =>
    refine .bind (skip_yields _) fun isFragment _ => .ite (fun _ => ?_) fun _ => ?_
    · refine .peek fun token _ => .ite (fun isSpread => .ofTakes ?_) fun _ => .ofYields ?_
      · refine name_takes.bind fun name ⟨same, isName⟩ =>
          .bind (directives_yields _ _) fun _ directives => .pure ⟨⟨isName, directives⟩, ?_⟩
        exact same ▸ isSpread.2
      · have inline_yields (condition : Option String)
            (isName : ∀ found, condition = some found → IsName found) : Yields (do
              let directives ← directives false depth
              let brace ← peek
              if brace.kind = .braceLeft then
                let selections ← groupOfSome .braceLeft .braceRight (selection depth)
                return Selection.inline ⟨condition, directives, token.position⟩ selections
              else failAt brace (.expectedKind .braceLeft brace.kind))
              fun found => found.WellFormed ∧ found.Readable := by
          refine .bind (directives_yields _ _) fun _ directives => .peek fun brace _ =>
            .ite (fun opens => .ofTakes ?_) fun _ => .ofYields (.failAt _ _)
          exact (selections_takes ih opens).bind fun _ ⟨nonempty, formed, readable⟩ =>
            .pure ⟨⟨isName, directives, formed⟩, nonempty, readable⟩
        refine .ite
          (fun _ => .bind next_yields fun _ _ => .bind (.map some ?_) inline_yields)
          fun _ => inline_yields none nofun
        refine name_yields.weaken fun name isName found equal => ?_
        cases equal
        exact isName
    · refine .bind (field_yields depth) fun _ ⟨⟨aliases, isName, arguments, directives⟩, fresh⟩ =>
        .bind (groupOfSome_yields ih _ _) fun _ every => ?_
      obtain ⟨formed, readable⟩ := allReadable every
      exact .pure ⟨⟨aliases, isName, arguments, directives, formed⟩, fresh, readable⟩

theorem selectionSet_takes (token : Token) :
    Takes token (selectionSet depth) fun selections =>
      selections ≠ [] ∧ Selection.AllWellFormed selections ∧ Selection.AllReadable selections :=
  .peek (.ite (fun opens => selections_takes (selection_yields depth) opens)
    fun _ => .failAt _ _)

/-- A default value is constant. -/
theorem variableDefinition_yields : Yields (variableDefinition depth)
    fun declared => declared.WellFormed ∧
      ∀ value, declared.default = some value → value.variableNames = [] := by
  refine .bind position_yields fun _ _ => .bind variableName_yields fun _ isName =>
    .bind (expect_yields _) fun _ _ => .bind (typeRef_yields depth) fun _ type =>
      .bind (skip_yields _) fun hasDefault _ =>
        .branch (fun _ => .map _ ?_) (fun _ => .pure nofun) fun default (holds : ∀ value,
          default = some value → value.WellFormed ∧ value.variableNames = []) =>
          .bind (directives_yields _ _) fun _ _ =>
            .pure ⟨⟨isName, type, fun value given => (holds value given).1⟩,
              fun value given => (holds value given).2⟩
  refine (value_yields true depth).weaken fun value ⟨formed, fixed⟩ found equal => ?_
  cases equal
  exact ⟨formed, fixed rfl⟩

theorem variableDefinitions_yields : Yields (variableDefinitions depth)
    fun declarations => (∀ declared ∈ declarations, declared.WellFormed) ∧
      ∀ declared ∈ declarations, ∀ value, declared.default = some value →
        value.variableNames = [] :=
  (groupOfSome_yields (variableDefinition_yields depth) _ _).weaken fun _ every =>
    ⟨fun declared member => (every declared member).1,
      fun declared member => (every declared member).2⟩

theorem operation_takes {kind : DefinitionKind} (isOperation : kind.isOperation = true)
    (depth : Nat) (token : Token) : Takes token (operation kind depth)
      fun definition => definition.WellFormed ∧ definition.Readable := by
  refine next_takes.bind fun _ _ => .bind peek_yields fun _ _ =>
    .branch (fun _ => name_yields.weaken fun _ isName => .inr isName)
      (fun _ => .pure (.inl rfl)) fun name (named : name = "" ∨ IsName name) =>
      .bind (variableDefinitions_yields depth) fun _ ⟨declarations, defaults⟩ =>
        .bind (directives_yields _ _) fun _ directives =>
          .bind (.ofTakes (selectionSet_takes depth)) fun _ ⟨nonempty, formed, readable⟩ =>
            .pure ⟨⟨?_, declarations, directives, formed⟩, ?_, defaults, nonempty, readable⟩
  · cases kind with
    | query | mutation | subscription => exact ⟨named, rfl⟩
    | fragment | other => cases isOperation
  · rintro rfl
    cases isOperation

theorem bareQuery_takes (token : Token) : Takes token (bareQuery depth)
    fun definition => definition.WellFormed ∧ definition.Readable :=
  .position fun _ => (selectionSet_takes depth token).bind fun _ ⟨nonempty, formed, readable⟩ =>
    .pure ⟨⟨⟨.inl rfl, rfl⟩, List.forall_mem_nil _, List.forall_mem_nil _, formed⟩,
      nofun, nofun, nonempty, readable⟩

theorem fragment_takes (token : Token) : Takes token (fragment depth)
    fun definition => definition.WellFormed ∧ definition.Readable := by
  refine (expectWord_takes "fragment").bind fun _ _ => .peek fun token _ =>
    .ite (fun _ => .ofYields (refuse_yields token)) fun notOn => .ofTakes ?_
  refine name_takes.bind fun name ⟨same, isName⟩ => .bind (variableDefinitions_yields depth)
    fun _ _ => .bind (expectWord_yields _) fun _ _ => .bind name_yields fun _ isCondition =>
      .bind (directives_yields _ _) fun _ directives =>
        .bind (.ofTakes (selectionSet_takes depth)) fun _ ⟨nonempty, formed, readable⟩ =>
          .pure ⟨⟨⟨isName, isCondition, rfl⟩, List.forall_mem_nil _, directives, formed⟩,
            fun _ => ?_, nofun, nonempty, readable⟩
  exact same ▸ notOn

end Grammar

namespace Definition

variable {source text : String} {definitions : List Definition}

theorem read_of_parseAll (read : Definition.parseAll source text = .ok definitions) :
    ∀ definition ∈ definitions, definition.WellFormed ∧ definition.Readable :=
  forall_of_parseAll
    (fun depth _ isOperation => .ofTakes (Grammar.operation_takes isOperation depth))
    (fun depth => .ofTakes (Grammar.bareQuery_takes depth))
    (fun depth => .ofTakes (Grammar.fragment_takes depth)) read

/-- Every definition that is read from a source is well formed. -/
theorem wellFormed_of_parseAll (read : Definition.parseAll source text = .ok definitions) :
    ∀ definition ∈ definitions, definition.WellFormed :=
  fun definition member => (read_of_parseAll read definition member).1

/-- Every definition that is read from a source is readable. -/
theorem readable_of_parseAll (read : Definition.parseAll source text = .ok definitions) :
    ∀ definition ∈ definitions, definition.Readable :=
  fun definition member => (read_of_parseAll read definition member).2

end Definition

end QueryTree
