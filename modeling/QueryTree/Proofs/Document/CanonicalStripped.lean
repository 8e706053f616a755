import QueryTree.Proofs.Diagnostic.Success
import QueryTree.Proofs.Document.Readable

/-!
# Canonical text depends on nothing that is stripped

Positions and the style of strings leave no trace in canonical text, so that
definitions that are the same without them are written alike.  Definitions that
are read from sources are written alike in no other case: a text determines its
lexemes, and a parser that reads the lexemes of two definitions finds both.
-/

namespace QueryTree

namespace Value

/-- Fields whose values are written alike are written alike. -/
theorem canonicalFields_stripped {fields : List (Named Value)}
    (each : ∀ field ∈ fields, field.value.stripped.canonical = field.value.canonical) :
    canonicalFields (fields.map Argument.stripped) = canonicalFields fields := by
  rw [← String.toList_inj, canonicalFields_toList, canonicalFields_toList, List.map_map]
  refine congrArg _ (List.map_congr_left fun field member => ?_)
  rw [Function.comp_apply, fieldCharacters, fieldCharacters, ← each field member]
  rfl

theorem canonical_stripped (value : Value) : value.stripped.canonical = value.canonical := by
  induction value using Value.induction with
  | list values position ih =>
    have same : canonicalList (strippedAll values) = canonicalList values := by
      rw [← String.toList_inj, canonicalList_toList, canonicalList_toList, strippedAll_eq_map,
        List.map_map]
      exact congrArg _ (List.map_congr_left fun value member =>
        congrArg String.toList (ih value member))
    rw [stripped, canonical, canonical, same]
  | object fields position ih =>
    rw [stripped, canonical, canonical, strippedFields_eq_map, canonicalFields_stripped ih]
  | ofVariable | int | float | string | boolean | null | enum => rfl

end Value

theorem Argument.canonicalAll_stripped (arguments : List Argument) :
    canonicalAll (arguments.map stripped) = canonicalAll arguments := by
  rw [canonicalAll, canonicalAll, List.isEmpty_map,
    Value.canonicalFields_stripped fun argument _ => argument.value.canonical_stripped]

theorem Directive.canonicalAll_stripped (directives : List Directive) :
    canonicalAll (directives.map stripped) = canonicalAll directives := by
  induction directives with
  | nil => rfl
  | cons directive directives ih =>
    rw [List.map_cons, canonicalAll, canonicalAll, ih, stripped, Argument.canonicalAll_stripped]

theorem TypeRef.text_stripped (type : TypeRef) : type.stripped.text = type.text := by
  induction type with
  | named name nonNull position => rfl
  | list element nonNull position ih => rw [stripped, text, text, ih]

namespace Selection

/-- Selections that are written alike one by one are written alike together. -/
theorem canonicalAll_strippedAll {selections : List Selection}
    (each : ∀ selection ∈ selections, selection.stripped.canonical = selection.canonical) :
    canonicalAll (strippedAll selections) = canonicalAll selections := by
  rw [← String.toList_inj, canonicalAll_toList, canonicalAll_toList, strippedAll_eq_map,
    List.map_map]
  exact congrArg _ (List.map_congr_left fun selection member =>
    congrArg String.toList (each selection member))

theorem canonical_stripped (selection : Selection) :
    selection.stripped.canonical = selection.canonical := by
  induction selection using Selection.induction with
  | field head selections ih =>
    have below : (strippedAll selections).isEmpty = selections.isEmpty := by
      rw [strippedAll_eq_map, List.isEmpty_map]
    rw [stripped, canonical, canonical, canonicalAll_strippedAll ih, below, Field.stripped,
      Argument.canonicalAll_stripped, Directive.canonicalAll_stripped]
  | spread head =>
    rw [stripped, canonical, canonical, Spread.stripped, Directive.canonicalAll_stripped]
  | inline head selections ih =>
    rw [stripped, canonical, canonical, canonicalAll_strippedAll ih, InlineFragment.stripped,
      Directive.canonicalAll_stripped]

end Selection

theorem VariableDefinition.canonical_stripped (declared : VariableDefinition) :
    declared.stripped.canonical = declared.canonical := by
  rw [stripped, canonical, canonical, TypeRef.text_stripped]
  cases declared.default with
  | none => rfl
  | some value => simp only [Option.map_some, Value.canonical_stripped]

namespace Definition

theorem canonical_stripped (definition : Definition) :
    definition.stripped.canonical = definition.canonical := by
  have declarations : VariableDefinition.canonicalAll
      (definition.variableDefinitions.map VariableDefinition.stripped) =
        VariableDefinition.canonicalAll definition.variableDefinitions := by
    rw [← String.toList_inj, VariableDefinition.canonicalAll_toList,
      VariableDefinition.canonicalAll_toList, List.map_map]
    exact congrArg _ (List.map_congr_left fun declared _ =>
      congrArg String.toList declared.canonical_stripped)
  have selections : Selection.canonicalAll (definition.selections.map Selection.stripped) =
      Selection.canonicalAll definition.selections := by
    rw [← Selection.strippedAll_eq_map]
    exact Selection.canonicalAll_strippedAll fun selection _ => selection.canonical_stripped
  rw [stripped, canonical, canonical, declarations, selections, List.isEmpty_map,
    Directive.canonicalAll_stripped]

/-- Definitions that differ only in what is stripped are written alike. -/
theorem map_canonical_eq {lefts rights : List Definition}
    (same : lefts.map stripped = rights.map stripped) :
    lefts.map canonical = rights.map canonical := by
  have through (definitions : List Definition) :
      definitions.map canonical = (definitions.map stripped).map canonical := by
    rw [List.map_map]
    exact List.map_congr_left fun definition _ => definition.canonical_stripped.symm
  rw [through lefts, same, ← through rights]

/-! ## Text that determines a definition -/

/-- A definition that was read from a source. -/
def IsRead (definition : Definition) : Prop :=
  ∃ source text definitions, parseAll source text = .ok definitions ∧ definition ∈ definitions

theorem isRead_of_parseAll {source text : String} {definitions : List Definition}
    (read : parseAll source text = .ok definitions) :
    ∀ definition ∈ definitions, definition.IsRead :=
  fun _ member => ⟨source, text, definitions, read, member⟩

theorem IsRead.wellFormed {definition : Definition} (isRead : definition.IsRead) :
    definition.WellFormed := by
  obtain ⟨source, text, definitions, parsed, member⟩ := isRead
  exact wellFormed_of_parseAll parsed definition member

theorem IsRead.readable {definition : Definition} (isRead : definition.IsRead) :
    definition.Readable := by
  obtain ⟨source, text, definitions, parsed, member⟩ := isRead
  exact readable_of_parseAll parsed definition member

variable {left right : Definition}

theorem kind_eq_of_text_eq (leftFormed : left.HeadWellFormed) (rightFormed : right.HeadWellFormed)
    (equal : left.kind.text = right.kind.text) : left.kind = right.kind := by
  unfold HeadWellFormed at leftFormed rightFormed
  generalize left.kind = leftKind at *
  generalize right.kind = rightKind at *
  cases leftKind with
  | other code => exact leftFormed.elim
  | query | mutation | subscription | fragment =>
    cases rightKind with
    | other code => exact rightFormed.elim
    | query | mutation | subscription | fragment =>
      revert equal
      decide

/-- One parser reads all definitions of a kind. -/
theorem exists_readsAt (leftRead : left.IsRead) (rightRead : right.IsRead)
    (sameKind : left.kind = right.kind) :
    ∃ parser, Parser.ReadsAt parser left.lexemes Parser.anyKind (Grammar.IsDefinition left) ∧
      Parser.ReadsAt parser right.lexemes Parser.anyKind (Grammar.IsDefinition right) := by
  have leftDeep := Nat.le_max_left left.lexemes.length right.lexemes.length
  have rightDeep := Nat.le_max_right left.lexemes.length right.lexemes.length
  cases isOperation : left.kind.isOperation with
  | true =>
    refine ⟨_,
      Grammar.operation_reads leftRead.wellFormed leftRead.readable isOperation leftDeep, ?_⟩
    rw [sameKind] at isOperation ⊢
    exact Grammar.operation_reads rightRead.wellFormed rightRead.readable isOperation rightDeep
  | false =>
    refine ⟨_,
      Grammar.fragment_reads leftRead.wellFormed leftRead.readable isOperation leftDeep, ?_⟩
    rw [sameKind] at isOperation
    exact Grammar.fragment_reads rightRead.wellFormed rightRead.readable isOperation rightDeep

theorem stripped_eq_of_isPrefix (leftRead : left.IsRead) (rightRead : right.IsRead)
    (begins : left.lexemes <+: right.lexemes) : left.stripped = right.stripped := by
  have sameKeyword : left.kind.text = right.kind.text :=
    congrArg Lexeme.text (List.cons_prefix_cons.mp begins).1
  have sameKind := kind_eq_of_text_eq leftRead.wellFormed.head rightRead.wellFormed.head sameKeyword
  obtain ⟨parser, readsLeft, readsRight⟩ := exists_readsAt leftRead rightRead sameKind
  obtain ⟨others, isRest⟩ := begins
  obtain ⟨value, _, _, ⟨asLeft, _⟩, asRight, _⟩ :=
    readsLeft.exists_common (isRest.symm ▸ readsRight) fun _ => trivial
  exact asLeft.symm.trans asRight

/-- The canonical text of a definition determines it up to its positions, and the
text that follows. -/
theorem IsRead.canonical_append_inj {rest others : List Char} (leftRead : left.IsRead)
    (rightRead : right.IsRead)
    (equal : left.canonical.toList ++ rest = right.canonical.toList ++ others) :
    left.stripped = right.stripped ∧ rest = others := by
  have spellsLeft := left.lexes_canonical leftRead.wellFormed rest (Lexer.ends_anything _)
  have spellsRight := right.lexes_canonical rightRead.wellFormed others (Lexer.ends_anything _)
  rw [← equal] at spellsRight
  have same : left.stripped = right.stripped := by
    rcases spellsLeft.isPrefix_or spellsRight with begins | begins
    · exact stripped_eq_of_isPrefix leftRead rightRead begins
    · exact (stripped_eq_of_isPrefix rightRead leftRead begins).symm
  rw [← left.canonical_stripped, same, right.canonical_stripped] at equal
  exact ⟨same, List.append_cancel_left equal⟩

/-- Canonical text identifies the definitions of all sources, up to positions and
the style of strings. -/
theorem canonical_eq_canonical_iff {source text otherSource otherText : String}
    {definitions others : List Definition} {left right : Definition}
    (read : Definition.parseAll source text = .ok definitions)
    (otherRead : Definition.parseAll otherSource otherText = .ok others)
    (member : left ∈ definitions) (otherMember : right ∈ others) :
    left.canonical = right.canonical ↔ left.stripped = right.stripped := by
  constructor
  · intro same
    have leftRead := isRead_of_parseAll read left member
    have rightRead := isRead_of_parseAll otherRead right otherMember
    -- The text is all there is: nothing follows either definition.
    have equal : left.canonical.toList ++ [] = right.canonical.toList ++ [] := by rw [same]
    exact (leftRead.canonical_append_inj rightRead equal).1
  · intro same
    rw [← left.canonical_stripped, same, right.canonical_stripped]

end Definition

/-- An escaped delete character and a block string with that character have one canonical text,
whose escape cannot be read back, and differ in nothing but their positions and their style. -/
theorem Definition.canonical_eq_canonical_iff_delete :
    ∃ escaped block, Definition.parseAll "a" "\x7b a(b: \"\\u007f\") \x7d" = .ok [escaped] ∧
      Definition.parseAll "b" "query \x7ba(b:\"\"\"\x7f\"\"\")\x7d" = .ok [block] ∧
      escaped.canonical = "query \x7ba(b: \"\\x7f\")\x7d" ∧
      escaped.canonical = block.canonical ∧ escaped.stripped = block.stripped := by
  obtain ⟨escaped, isEscaped, escapedText⟩ : ∃ definition,
      Definition.parseAll "a" "\x7b a(b: \"\\u007f\") \x7d" = .ok [definition] ∧
        definition.canonical = "query \x7ba(b: \"\\x7f\")\x7d" :=
    exists_singleton_of_map (by decide +kernel)
  obtain ⟨block, isBlock, blockText⟩ : ∃ definition,
      Definition.parseAll "b" "query \x7ba(b:\"\"\"\x7f\"\"\")\x7d" = .ok [definition] ∧
        definition.canonical = "query \x7ba(b: \"\\x7f\")\x7d" :=
    exists_singleton_of_map (by decide +kernel)
  have same : escaped.canonical = block.canonical := by rw [escapedText, blockText]
  have members := canonical_eq_canonical_iff isEscaped isBlock (List.mem_singleton_self _)
    (List.mem_singleton_self _)
  exact ⟨escaped, block, isEscaped, isBlock, escapedText, same, members.mp same⟩

end QueryTree
