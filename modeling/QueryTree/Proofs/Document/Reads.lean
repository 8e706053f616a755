import QueryTree.Proofs.Document.ReadsSelection

/-!
# Definitions are read from their lexemes

The grammar reads the lexemes of a definition as this definition, up to positions
and the style of strings, and places it at its first token.  A list of definitions
is read as its operations and its fragments, each in their order.
-/

namespace QueryTree

/-- Whether a definition is one that can be read: it selects something, no fragment
is called `on` and default values are constant. -/
structure Definition.Readable (definition : Definition) : Prop where
  name : definition.kind = .fragment → definition.name ≠ "on"
  defaults : ∀ declared ∈ definition.variableDefinitions,
    ∀ value, declared.default = some value → value.variableNames = []
  some : definition.selections ≠ []
  selections : Selection.AllReadable definition.selections

namespace Grammar

open QueryTree.Parser

/-! ## Declared variables -/

/-- Whether a kind of token does not continue the declaration of a variable. -/
def endsDeclaration (kind : TokenKind) : Prop :=
  kind ≠ .bang ∧ kind ≠ .equals ∧ endsDirectives kind

instance (kind : TokenKind) : Decidable (endsDeclaration kind) :=
  inferInstanceAs (Decidable (_ ∧ _))

variable {depth : Nat}

theorem default_reads {value : Value} (formed : value.WellFormed) (fixed : value.variableNames = [])
    (deep : value.lexemes.length ≤ depth) :
    Reads (some <$> Grammar.value true depth) value.lexemes anyKind fun found =>
      found.map Value.stripped = some value.stripped :=
  .map _ ((value_reads formed (fun _ => fixed) deep).weaken (fun _ any => any) fun _ same =>
    congrArg some same)

theorem variableDefinition_reads {declared : VariableDefinition} (formed : declared.WellFormed)
    (fixed : ∀ value, declared.default = some value → value.variableNames = [])
    (deep : declared.lexemes.length ≤ depth) :
    Reads (variableDefinition depth) declared.lexemes endsDeclaration fun found =>
      found.stripped = declared.stripped := by
  have nothing : Reads (directives false depth) [] endsDeclaration fun _ => True := by
    have reads : Reads (directives false depth) ([].flatMap Directive.lexemes) endsDirectives _ :=
      directives_reads (by simp) (Nat.zero_le depth)
    exact reads.weaken (fun _ ends => ends.2.2) fun _ _ => trivial
  simp only [VariableDefinition.lexemes, List.length_cons, List.length_append] at deep
  have few : declared.type.lexemes.length ≤ depth := by omega
  refine position_reads.free fun position _ => (variableName_reads declared.name).bind
    (fun name isName => (expect_reads (.mark .colon) rfl).cons fun _ _ =>
      (typeRef_reads few).bind (fun type sameType => ?_) fun kind ends => ?_) fun _ _ => trivial
  · cases isDefault : declared.default with
    | none =>
      refine (skip_reads_nothing .equals).bind (fun hasDefault isFalse => .neg (by simp [isFalse]) <|
        .pureBind <| nothing.last fun _ _ => .pure ?_) fun kind ends => ends.2.1
      rw [VariableDefinition.stripped, VariableDefinition.stripped, isName, sameType, isDefault]
    | some value =>
      rw [isDefault, VariableDefinition.defaultLexemes, List.length_cons] at deep
      have reads := default_reads (formed.default value isDefault) (fixed value isDefault)
        (show value.lexemes.length ≤ depth by omega)
      refine (skip_reads rfl).cons fun hasDefault isTrue => .pos isTrue <|
        (reads.weaken (fun _ _ => trivial) fun _ same => same).last fun default sameDefault =>
          nothing.last fun _ _ => .pure ?_
      rw [VariableDefinition.stripped, VariableDefinition.stripped, isName, sameType,
        sameDefault, isDefault, Option.map_some]
  · cases declared.default with
    | none => exact ends.1
    | some value => rintro ⟨⟩

theorem variableDefinitions_reads {declarations : List VariableDefinition}
    (formed : ∀ declared ∈ declarations, declared.WellFormed)
    (fixed : ∀ declared ∈ declarations, ∀ value, declared.default = some value →
      value.variableNames = [])
    (deep : (Lexeme.group .parenLeft .parenRight VariableDefinition.lexemes declarations).length ≤
      depth) :
    Reads (variableDefinitions depth)
      (Lexeme.group .parenLeft .parenRight VariableDefinition.lexemes declarations)
      (· ≠ .parenLeft) fun found => found.map VariableDefinition.stripped =
        declarations.map VariableDefinition.stripped := by
  have items : Items (variableDefinition depth) .parenRight endsDeclaration
      VariableDefinition.lexemes VariableDefinition.stripped declarations := by
    refine ⟨fun declared member => ?_, fun _ _ => ?_, by decide⟩
    · exact variableDefinition_reads (formed declared member) (fixed declared member)
        (Nat.le_trans (group_deep member) deep)
    · exact ⟨_, _, rfl, by decide, by decide⟩
  exact groupOfSome_reads_group items rfl rfl

/-! ## Definitions -/

theorem selectionSet_reads {selections : List Selection}
    (formed : Selection.AllWellFormed selections) (readable : Selection.AllReadable selections)
    (some : selections ≠ []) (deep : (Lexeme.enclosed .braceLeft .braceRight
      (selections.flatMap Selection.lexemes)).length ≤ depth) :
    Reads (selectionSet depth)
      (Lexeme.enclosed .braceLeft .braceRight (selections.flatMap Selection.lexemes)) anyKind
      fun found => found.map Selection.stripped = selections.map Selection.stripped := by
  refine .peek rfl fun _ _ => .pos rfl <|
    groupOfSome_reads (selection_items fun selection member => ?_) some rfl rfl
  exact selection_reads (Selection.allWellFormed_iff.mp formed selection member)
    (Selection.allReadable_iff.mp readable selection member)
    (enclosed_deep (Nat.le_succ_of_le deep) member)

/-- Whether something was read as a definition that begins at a position. -/
def IsDefinition (definition : Definition) (position : Position) (found : Definition) : Prop :=
  found.stripped = definition.stripped ∧ found.position = position

end Grammar

namespace Definition

variable {definition : Definition}

theorem head_of_isOperation (formed : definition.HeadWellFormed)
    (isOperation : definition.kind.isOperation = true) :
    (definition.name = "" ∨ IsName definition.name) ∧ definition.condition = "" ∧
      definition.kind ≠ .fragment := by
  unfold HeadWellFormed at formed
  cases kind : definition.kind with
  | query | mutation | subscription =>
    rw [kind] at formed
    exact ⟨formed.1, formed.2, by decide⟩
  | fragment | other =>
    rw [kind] at isOperation
    cases isOperation

theorem head_of_not_isOperation (formed : definition.HeadWellFormed)
    (isFragment : definition.kind.isOperation = false) :
    definition.kind = .fragment ∧ IsName definition.name ∧ definition.variableDefinitions = [] := by
  unfold HeadWellFormed at formed
  cases kind : definition.kind with
  | query | mutation | subscription =>
    rw [kind] at isFragment
    cases isFragment
  | fragment =>
    rw [kind] at formed
    exact ⟨rfl, formed.1, formed.2.2⟩
  | other =>
    rw [kind] at formed
    exact formed.elim

/-- The body of a definition begins with punctuation. -/
theorem bodyLexemes_starts (definition : Definition) :
    ∃ kind others, definition.bodyLexemes = .mark kind :: others ∧ kind ≠ .name := by
  unfold bodyLexemes
  cases definition.variableDefinitions with
  | nil =>
    cases definition.directives with
    | nil | cons directive directives => exact ⟨_, _, rfl, by decide⟩
  | cons declared declarations => exact ⟨_, _, rfl, by decide⟩

end Definition

namespace Grammar

open QueryTree.Parser

variable {depth : Nat}

theorem operation_reads {definition : Definition} (formed : definition.WellFormed)
    (readable : definition.Readable) (isOperation : definition.kind.isOperation = true)
    (deep : definition.lexemes.length ≤ depth) :
    ReadsAt (operation definition.kind depth) definition.lexemes anyKind
      (IsDefinition definition) := by
  obtain ⟨named, noCondition, notFragment⟩ := Definition.head_of_isOperation formed.head isOperation
  simp only [Definition.lexemes, Definition.bodyLexemes, List.length_cons, List.length_append]
    at deep
  have declarations := variableDefinitions_reads formed.declarations readable.defaults
    (show _ ≤ depth by omega)
  have directives := directives_reads formed.directives (show _ ≤ depth by omega)
  have selections := selectionSet_reads formed.selections readable.selections readable.some
    (show _ ≤ depth by omega)
  refine .cons (fun token rest isKeyword => next_cons (by rw [isKeyword]; rfl) rest)
    fun keyword => ?_
  have body : Reads (do
      let declared ← variableDefinitions depth
      let directives ← Grammar.directives false depth
      let selections ← selectionSet depth
      return (⟨definition.kind, definition.name, "", declared, directives, selections,
        keyword.position⟩ : Definition)) definition.bodyLexemes anyKind
      (IsDefinition definition keyword.position) := by
    refine declarations.bind (fun declared sameDeclared => directives.bind
      (fun others sameDirectives => selections.last fun found same => .pure ⟨?_, rfl⟩)
        fun _ _ => show endsDirectives .braceLeft by decide) fun _ _ => ?_
    · rw [Definition.stripped, Definition.stripped, sameDeclared, sameDirectives, same, noCondition]
    · rw [headKind_append]
      exact headKind_directives (· ≠ .parenLeft) (by decide)
        (show TokenKind.braceLeft ≠ .parenLeft by decide)
  unfold Definition.headLexemes
  rw [if_neg notFragment, List.append_nil]
  by_cases anonymous : definition.name = ""
  · obtain ⟨kind, others, starts, notName⟩ := definition.bodyLexemes_starts
    rw [anonymous] at body
    rw [if_pos anonymous]
    exact .peek starts fun _ _ => .neg notName (.pureBind body)
  · rw [if_neg anonymous]
    refine .peek rfl fun _ _ => .pos rfl <| (name_reads definition.name).cons fun name isName => ?_
    rw [isName]
    exact body

theorem fragment_reads {definition : Definition} (formed : definition.WellFormed)
    (readable : definition.Readable) (isFragment : definition.kind.isOperation = false)
    (deep : definition.lexemes.length ≤ depth) :
    ReadsAt (fragment depth) definition.lexemes anyKind (IsDefinition definition) := by
  obtain ⟨isFragment, named, noVariables⟩ :=
    Definition.head_of_not_isOperation formed.head isFragment
  have written : definition.lexemes = .word "fragment" :: .word definition.name :: .word "on" ::
      .word definition.condition :: (definition.directives.flatMap Directive.lexemes ++
        Lexeme.enclosed .braceLeft .braceRight
          (definition.selections.flatMap Selection.lexemes)) := by
    have notEmpty : definition.name ≠ "" := by
      intro empty
      rw [empty] at named
      exact absurd named (by decide)
    unfold Definition.lexemes Definition.headLexemes Definition.bodyLexemes
    rw [if_neg notEmpty, if_pos isFragment, noVariables, isFragment]
    rfl
  rw [written] at deep ⊢
  simp only [List.length_cons, List.length_append] at deep
  have directives := directives_reads formed.directives (show _ ≤ depth by omega)
  have selections := selectionSet_reads formed.selections readable.selections readable.some
    (show _ ≤ depth by omega)
  have declarations : Reads (variableDefinitions depth) [] (· ≠ .parenLeft) fun _ => True :=
    (skip_reads_nothing .parenLeft).last fun _ isFalse => .neg (by simp [isFalse]) (.pure trivial)
  refine .cons (fun _ rest isKeyword => expectWord_cons isKeyword rest) fun keyword =>
    .peek rfl fun _ _ => .neg (readable.name isFragment) <|
    (name_reads definition.name).cons fun name isName => declarations.bind (fun _ _ =>
      (expectWord_reads "on").cons fun _ _ => (name_reads definition.condition).cons
        fun condition isCondition => directives.bind (fun others sameDirectives =>
          selections.last fun found same => .pure ⟨?_, rfl⟩)
            fun _ _ => show endsDirectives .braceLeft by decide)
      fun _ _ => show TokenKind.name ≠ .parenLeft by decide
  rw [Definition.stripped, Definition.stripped, isName, isCondition, sameDirectives, same,
    isFragment, noVariables]

end Grammar

/-! ## Documents -/

/-- The document of definitions in their order. -/
def Document.ofDefinitions (definitions : List Definition) : Document :=
  ⟨definitions.filter (·.kind.isOperation), definitions.filter (!·.kind.isOperation)⟩

namespace Grammar

open QueryTree.Parser

theorem kind_of_isDefinition {definition found : Definition} {position : Position}
    (same : IsDefinition definition position found) : found.kind = definition.kind := by
  have sameKind := congrArg Definition.kind same.1
  exact sameKind

variable {left rest tokens : List Token} {token : Token} {bound depth : Nat}

/-- What is read first goes before what is read after it. -/
theorem bind_bind_pure {α β γ : Type} {first : Parser α} {second : Parser β} (join : α → β → γ)
    {value : α} {other : β} (read : first tokens = .ok (value, rest))
    (after : second rest = .ok (other, left)) :
    (do
      let value ← first
      let other ← second
      return join value other) tokens = .ok (join value other, left) := by
  change Except.bind (first tokens) (fun found => Except.bind (second found.2) _) = _
  rw [read]
  change Except.bind (second rest) _ = _
  rw [after]
  rfl

/-- A keyword of an operation begins one. -/
theorem definitionsUpTo_operation {kind : DefinitionKind} (depth bound : Nat)
    (isKeyword : token.lexeme = .word kind.text) (isOperation : kind.isOperation = true) :
    definitionsUpTo depth (bound + 1) (token :: tokens) = (do
      let first ← operation kind depth
      let others ← definitionsUpTo depth bound
      return { others with operations := first :: others.operations }) (token :: tokens) := by
  obtain ⟨tokenKind, text, position, comment⟩ := token
  cases isKeyword
  cases kind with
  | query | mutation | subscription => rfl
  | fragment | other => cases isOperation

theorem definitionsUpTo_fragment (depth bound : Nat) (isKeyword : token.lexeme = .word "fragment") :
    definitionsUpTo depth (bound + 1) (token :: tokens) = (do
      let first ← fragment depth
      let others ← definitionsUpTo depth bound
      return { others with fragments := first :: others.fragments }) (token :: tokens) := by
  obtain ⟨tokenKind, text, position, comment⟩ := token
  cases isKeyword
  rfl

/-- One definition is read and put in front of the others. -/
theorem definitionsUpTo_cons {definition : Definition} (formed : definition.WellFormed)
    (readable : definition.Readable) (deep : definition.lexemes.length ≤ depth)
    (spelled : tokens.map Token.lexeme = definition.lexemes) {others : List Definition}
    (after : definitionsUpTo depth bound rest = .ok (Document.ofDefinitions others, left)) :
    ∃ found, IsDefinition definition (tokens.headD .missing).position found ∧
      definitionsUpTo depth (bound + 1) (tokens ++ rest) =
        .ok (Document.ofDefinitions (found :: others), left) := by
  obtain ⟨token, following, rfl, isKeyword, _⟩ := List.map_eq_cons_iff.mp spelled
  cases isOperation : definition.kind.isOperation with
  | true =>
    obtain ⟨found, read, same⟩ := operation_reads formed readable isOperation deep
      (token :: following) rest spelled trivial
    refine ⟨found, same, ?_⟩
    rw [List.cons_append, definitionsUpTo_operation depth bound isKeyword isOperation]
    rw [← kind_of_isDefinition same] at isOperation
    have whole := bind_bind_pure
      (fun first (others : Document) => { others with operations := first :: others.operations })
      read after
    simpa [Document.ofDefinitions, isOperation] using whole
  | false =>
    obtain ⟨found, read, same⟩ := fragment_reads formed readable isOperation deep
      (token :: following) rest spelled trivial
    refine ⟨found, same, ?_⟩
    rw [(Definition.head_of_not_isOperation formed.head isOperation).1] at isKeyword
    rw [List.cons_append, definitionsUpTo_fragment depth bound isKeyword]
    rw [← kind_of_isDefinition same] at isOperation
    have whole := bind_bind_pure
      (fun first (others : Document) => { others with fragments := first :: others.fragments })
      read after
    simpa [Document.ofDefinitions, isOperation] using whole

/-- Definitions are read from tokens that spell them one after the other. -/
theorem definitionsUpTo_reads {definitions : List Definition}
    (formed : ∀ definition ∈ definitions, definition.WellFormed)
    (readable : ∀ definition ∈ definitions, definition.Readable)
    (deep : ∀ definition ∈ definitions, definition.lexemes.length ≤ depth)
    (enough : definitions.length < bound) {groups : List (List Token)}
    (spelled : groups.map (List.map Token.lexeme) = definitions.map Definition.lexemes)
    {last : Token} (isEnd : last.kind = .endOfInput) :
    ∃ found, found.map Definition.stripped = definitions.map Definition.stripped ∧
      found.map Definition.position = groups.map (fun group => (group.headD .missing).position) ∧
      definitionsUpTo depth bound (groups.flatten ++ [last]) =
        .ok (Document.ofDefinitions found, [last]) := by
  induction definitions generalizing groups bound with
  | nil =>
    cases bound with
    | zero => cases enough
    | succ bound =>
      rw [List.map_nil, List.map_eq_nil_iff] at spelled
      subst spelled
      obtain ⟨kind, text, position, comment⟩ := last
      cases isEnd
      exact ⟨[], rfl, rfl, rfl⟩
  | cons definition definitions ih =>
    cases bound with
    | zero => cases enough
    | succ bound =>
      obtain ⟨group, groups, rfl, isFirst, areOthers⟩ := List.map_eq_cons_iff.mp spelled
      obtain ⟨others, sames, places, after⟩ := ih
        (List.forall_mem_cons.mp formed).2
        (List.forall_mem_cons.mp readable).2
        (List.forall_mem_cons.mp deep).2
        (Nat.lt_of_succ_lt_succ enough) areOthers
      obtain ⟨found, ⟨same, place⟩, read⟩ := definitionsUpTo_cons
        (formed definition List.mem_cons_self) (readable definition List.mem_cons_self)
        (deep definition List.mem_cons_self) isFirst after
      refine ⟨found :: others, ?_, ?_, ?_⟩
      · rw [List.map_cons, List.map_cons, same, sames]
      · rw [List.map_cons, List.map_cons, place, places]
      · rw [List.flatten_cons, List.append_assoc]
        exact read

end Grammar

end QueryTree
