import QueryTree.Document.Grammar
import QueryTree.Proofs.Document.Unplaced
import QueryTree.Proofs.Language.Replays

/-!
# Reading definitions again

Every rule of the grammar reads again what it has read before, up to positions and with
any greater depth.  If the style of strings is not seen, what is read may differ in it, too.
A definition ends with a closing brace, so that it does not depend on
what follows.
-/

namespace QueryTree.Grammar

open QueryTree.Parser

variable {depth more : Nat} {styled : Bool}

/-! ## Types and values -/

theorem typeRef_replays (less : depth ≤ more) :
    Replays styled anyLexeme false (typeRef depth) (typeRef more) TypeRef.stripped := by
  induction depth generalizing more with
  | zero => exact .refuseNext
  | succ depth ih =>
    cases more with
    | zero => cases less
    | succ more =>
      have element := ih (Nat.le_of_succ_le_succ less)
      refine (skip_replays rfl).bindSame fun isList => ?_
      refine .ite (fun _ => .position fun _ _ => ?_) fun _ => .position fun _ _ => ?_
      · refine element.bind fun type otherType sameType => ?_
        refine (expect_replays .bracketRight rfl).bind fun _ _ _ =>
          (skip_replays rfl).lastSame fun nonNull => ?_
        rw [TypeRef.stripped, TypeRef.stripped, sameType]
      · exact name_replays.bindSame fun name => (skip_replays rfl).lastSame fun nonNull => rfl

theorem variableName_replays : Replays styled anyLexeme true variableName variableName id :=
  (expect_replays .dollar rfl).bind fun _ _ _ => name_replays

theorem named_replays {content contentAgain : Parser Value}
    (replays : Replays styled anyLexeme false content contentAgain (Value.seen styled)) :
    Replays styled anyLexeme false (named content) (named contentAgain) (Argument.seen styled) := by
  refine .position fun _ _ => name_replays.bindSame fun name => ?_
  refine (expect_replays .colon rfl).bind fun _ _ _ => replays.last fun value other same => ?_
  simp only [Argument.seen_mk, same]

theorem seen_nameValue (text : String) (place other : Position) :
    (nameValue text place).seen styled = (nameValue text other).seen styled := by
  cases styled <;>
    · unfold nameValue
      split
      · rfl
      split
      · rfl
      split
      · rfl
      · rfl

variable (constant : Bool)

theorem value_replays (less : depth ≤ more) :
    Replays styled anyLexeme false (value constant depth) (value constant more)
      (Value.seen styled) := by
  induction depth generalizing more with
  | zero => exact .refuseNext
  | succ depth ih =>
    cases more with
    | zero => cases less
    | succ more =>
      have inner := ih (Nat.le_of_succ_le_succ less)
      refine .peek fun token other same _ => ?_
      have sameText := Token.text_eq_of_seen same
      have taken (real : Lexer.isFinal token.kind = false) {result resultAgain : Value}
          (sameResult : resultAgain.seen styled = result.seen styled) :
          Replays styled (· = token.seen styled) false (next >>= fun _ => pure result)
            (next >>= fun _ => pure resultAgain) (Value.seen styled) := by
        refine ((next_replays ?_).last fun _ _ _ => sameResult).opens
        rintro _ rfl
        rw [Token.isSolid_seen]
        simp [Lexeme.isSolid, Token.lexeme, real]
      rcases Token.kind_eq_or_of_seen same with sameKind | ⟨rfl, isString, otherIsString⟩
      · rw [sameKind, sameText]
        cases kind : token.kind with
        | bracketLeft =>
          refine (group_replays inner rfl rfl).any.last fun values others same => ?_
          simp only [Value.seen_list, same]
        | braceLeft =>
          refine (group_replays (named_replays inner) rfl rfl).any.last fun fields others same => ?_
          simp only [Value.seen_object, same]
        | dollar =>
          refine .ite (fun _ => .refuseNext) fun _ => ?_
          refine (variableName_replays.any.lastSame fun name => ?_).opens
          cases styled <;> rfl
        | int | float | string | blockString =>
          exact taken (by rw [kind]; rfl) (by cases styled <;> rfl)
        | name => exact taken (by rw [kind]; rfl) (seen_nameValue _ _ _)
        | _ => exact .refuseNext
      · -- One of the strings may be a block string, which is not seen.
        rw [sameText]
        rcases isString with kind | kind <;> rcases otherIsString with otherKind | otherKind <;>
          rw [kind, otherKind] <;> exact taken (by rw [kind]; rfl) rfl

theorem arguments_replays (less : depth ≤ more) :
    Replays styled anyLexeme false (arguments constant depth) (arguments constant more)
      (List.map (Argument.seen styled)) :=
  groupOfSome_replays (named_replays (value_replays constant less)) rfl rfl

/-! ## Directives -/

/-- What follows the sign of a directive. -/
theorem directiveRest_replays (styled constant : Bool) (less : depth ≤ more) :
    Replays styled anyLexeme false
      (do let place ← position
          let name ← name
          let arguments ← arguments constant depth
          return (⟨name, arguments, place⟩ : Directive))
      (do let place ← position
          let name ← name
          let arguments ← arguments constant more
          return (⟨name, arguments, place⟩ : Directive)) (Directive.seen styled) := by
  refine .position fun _ _ => name_replays.bindSame fun name => ?_
  refine (arguments_replays constant less).last fun arguments others sames => ?_
  simp only [Directive.seen_mk, sames]

theorem directive_replays (less : depth ≤ more) :
    Replays styled anyLexeme false (directive constant depth) (directive constant more)
      (Directive.seen styled) :=
  (expect_replays .atSign rfl).bind fun _ _ _ => directiveRest_replays styled constant less

/-- A directive takes a token. -/
theorem length_directive {constant : Bool} {tokens rest : List Token} {value : Directive}
    (read : directive constant depth tokens = .ok (value, rest)) :
    rest.length < tokens.length := by
  obtain ⟨token, between, isSign, isRest⟩ := bind_eq_ok.mp read
  obtain ⟨front, rfl, _, some⟩ := (@expect_replays true .atSign rfl).leaves trivial isSign
  obtain ⟨back, rfl, _, _⟩ :=
    (directiveRest_replays true constant (Nat.le_refl depth)).leaves trivial isRest
  have length := List.length_pos_iff.mpr (some rfl)
  simp only [List.length_append]
  omega

/-- More directives than there are tokens cannot be read. -/
theorem directivesUpTo_enough {constant : Bool} {tokens : List Token} {bound greater : Nat}
    (enough : tokens.length ≤ bound) (less : bound ≤ greater) :
    directivesUpTo constant depth bound tokens = directivesUpTo constant depth greater tokens := by
  induction bound generalizing tokens greater with
  | zero =>
    rw [List.length_eq_zero_iff.mp (Nat.le_zero.mp enough)]
    cases greater <;> rfl
  | succ bound ih =>
    cases greater with
    | zero => cases less
    | succ greater =>
      rw [directivesUpTo, directivesUpTo]
      change (if _ then _ else _ : Parser (List Directive)) tokens =
        (if _ then _ else _ : Parser (List Directive)) tokens
      split
      next =>
        change Except.bind (directive constant depth tokens) _ =
          Except.bind (directive constant depth tokens) _
        cases read : directive constant depth tokens with
        | error fault => rfl
        | ok result =>
          have fewer : result.2.length ≤ bound :=
            Nat.le_of_lt_succ (Nat.lt_of_lt_of_le (length_directive read) enough)
          change Except.bind (directivesUpTo constant depth bound result.2) _ =
            Except.bind (directivesUpTo constant depth greater result.2) _
          rw [ih fewer (Nat.le_of_succ_le_succ less)]
      next => rfl

theorem directivesUpTo_replays (less : depth ≤ more) (bound : Nat) :
    Replays styled anyLexeme false (directivesUpTo constant depth bound)
      (directivesUpTo constant more bound) (List.map (Directive.seen styled)) := by
  induction bound with
  | zero => exact .pure rfl
  | succ bound ih =>
    refine .peek fun _ _ same _ => .iteOf (Token.kind_iff_of_seen rfl same) (fun _ => ?_)
      fun _ => .pure rfl
    refine (directive_replays constant less).any.bind fun first other same => ?_
    refine ih.last fun values others sames => ?_
    rw [List.map_cons, List.map_cons, same, sames]

theorem directives_replays (less : depth ≤ more) :
    Replays styled anyLexeme false (directives constant depth) (directives constant more)
      (List.map (Directive.seen styled)) where
  leaves {tokens _ _} allows read :=
    (directivesUpTo_replays constant less tokens.length).leaves allows read
  replay {taken rest others following _} allows read spelled next longer := by
    have bounded : directivesUpTo constant depth (taken ++ rest).length (taken ++ rest) =
        .ok (_, rest) := read
    rw [directivesUpTo_enough (Nat.le_refl _) (length_append_le spelled longer)] at bounded
    exact (directivesUpTo_replays constant less _).replay allows bounded spelled next longer

/-! ## Selections -/

theorem field_replays (less : depth ≤ more) :
    Replays styled anyLexeme false (field depth) (field more) (Field.seen styled) := by
  refine .position fun _ _ => name_replays.bindSame fun first => ?_
  refine (skip_replays rfl).bindSame fun aliased => ?_
  refine .branchSame (fun _ => name_replays) (fun _ => .pure rfl) fun name => ?_
  refine (arguments_replays false less).bind fun arguments others sameArguments => ?_
  refine (directives_replays false less).last fun directives others sameDirectives => ?_
  simp only [Field.seen_mk, sameArguments, sameDirectives]

theorem on_replays :
    Replays styled (fun lexeme => lexeme.text = "on") true next next (Token.seen styled) :=
  next_replays_of_text (by decide)

/-- What follows the type condition of an inline fragment. -/
theorem inlineRest_replays {depth more : Nat} (less : depth ≤ more)
    (replays : Replays styled anyLexeme false (selection depth) (selection more)
      (Selection.seen styled))
    (condition : Option String) (place otherPlace : Position) :
    Replays styled anyLexeme true
      (do let directives ← directives false depth
          let brace ← peek
          if brace.kind = .braceLeft then
            let selections ← groupOfSome .braceLeft .braceRight (selection depth)
            return .inline ⟨condition, directives, place⟩ selections
          else failAt brace (.expectedKind .braceLeft brace.kind))
      (do let directives ← directives false more
          let brace ← peek
          if brace.kind = .braceLeft then
            let selections ← groupOfSome .braceLeft .braceRight (selection more)
            return .inline ⟨condition, directives, otherPlace⟩ selections
          else failAt brace (.expectedKind .braceLeft brace.kind)) (Selection.seen styled) := by
  refine (directives_replays false less).bind fun directives others sameDirectives => ?_
  refine .peek fun _ _ same _ => .iteOf (Token.kind_iff_of_seen rfl same) (fun isBrace => ?_)
    fun _ => .failAt
  refine ((groupOfSome_replays_closed replays rfl rfl).weaken ?_).last
    fun selections otherSelections sameSelections => ?_
  · rintro _ rfl
    exact (Token.kind_seen rfl).mpr isBrace
  · simp only [Selection.seen_inline, sameDirectives, sameSelections]

theorem selection_replays (less : depth ≤ more) :
    Replays styled anyLexeme false (selection depth) (selection more) (Selection.seen styled) := by
  induction depth generalizing more with
  | zero => exact .refuseNext
  | succ depth ih =>
    cases more with
    | zero => cases less
    | succ more =>
      have shorter := Nat.le_of_succ_le_succ less
      have below := ih shorter
      refine (skip_replays rfl).bindSame fun isFragment => ?_
      refine .ite (fun _ => ?_) fun _ => ?_
      · refine .peek fun token other same _ => .iteOf ?_ (fun _ => ?_) fun _ => ?_
        · rw [Token.kind_iff_of_seen rfl same, Token.text_eq_of_seen same]
        · refine name_replays.any.bindSame fun name => ?_
          refine (directives_replays false shorter).last fun directives others sames => ?_
          simp only [Selection.seen_spread, sames]
        · rw [Token.text_eq_of_seen same]
          refine .ite (fun isOn => ?_) fun _ => ?_
          · refine (on_replays.weaken ?_).bind fun _ _ _ => ?_
            · rintro _ rfl
              rw [Token.text_seen]
              exact isOn
            · have condition :
                  Replays styled anyLexeme true (some <$> name) (some <$> name) id :=
                name_replays.map fun _ _ same => congrArg some same
              exact condition.bindSame fun condition =>
                (inlineRest_replays shorter below condition _ _).opens
          · have nothing : Replays styled (· = token.seen styled) false
                (pure (none : Option String)) (pure none) id :=
              .pure rfl
            exact nothing.bindSame fun condition =>
              (inlineRest_replays shorter below condition _ _).opens
      · refine (field_replays shorter).bind fun head otherHead sameHead => ?_
        refine (groupOfSome_replays below rfl rfl).last fun selections others sames => ?_
        simp only [Selection.seen_field, sameHead, sames]

theorem selectionSet_replays (less : depth ≤ more) :
    Replays styled anyLexeme true (selectionSet depth) (selectionSet more)
      (List.map (Selection.seen styled)) := by
  refine .peek fun _ _ same _ => .iteOf (Token.kind_iff_of_seen rfl same) (fun isBrace => ?_)
    fun _ => .failAt
  apply (groupOfSome_replays_closed (selection_replays less) rfl rfl).weaken
  rintro _ rfl
  exact (Token.kind_seen rfl).mpr isBrace

/-! ## Definitions -/

theorem variableDefinition_replays (less : depth ≤ more) :
    Replays styled anyLexeme false (variableDefinition depth) (variableDefinition more)
      (VariableDefinition.seen styled) := by
  refine .position fun _ _ => variableName_replays.bindSame fun name => ?_
  refine (expect_replays .colon rfl).bind fun _ _ _ =>
    (typeRef_replays less).bind fun type otherType sameType => ?_
  refine (skip_replays rfl).bindSame fun hasDefault => ?_
  have default : Replays styled anyLexeme false (some <$> value true depth)
      (some <$> value true more) (Option.map (Value.seen styled)) :=
    (value_replays true less).map fun _ _ same => congrArg some same
  refine .branch (fun _ => default) (fun _ => .pure rfl) fun default otherDefault sameDefault => ?_
  refine (directives_replays false less).last fun _ _ _ => ?_
  simp only [VariableDefinition.seen_mk, sameType, sameDefault]

theorem variableDefinitions_replays (less : depth ≤ more) :
    Replays styled anyLexeme false (variableDefinitions depth) (variableDefinitions more)
      (List.map (VariableDefinition.seen styled)) :=
  groupOfSome_replays (variableDefinition_replays less) rfl rfl

theorem operation_replays (kind : DefinitionKind) (less : depth ≤ more) :
    Replays styled (fun lexeme => lexeme.kind = .name) true (operation kind depth)
      (operation kind more) (Definition.seen styled) := by
  have keyword : Replays styled (fun lexeme => lexeme.kind = .name) true next next
    (Token.seen styled) := next_replays_of_kind rfl
  refine keyword.bind fun _ _ _ => .peek fun token other same _ => ?_
  have isName : other.kind = .name ↔ token.kind = .name := Token.kind_iff_of_seen rfl same
  simp only [isName]
  refine .branchSame (fun _ => name_replays.any) (fun _ => .pure rfl) fun name => ?_
  refine (variableDefinitions_replays less).bind fun declared others sameDeclared => ?_
  refine (directives_replays false less).bind fun directives others sameDirectives => ?_
  refine (selectionSet_replays less).last fun selections others sameSelections => ?_
  simp only [Definition.seen_mk, sameDeclared, sameDirectives, sameSelections]

theorem bareQuery_replays (less : depth ≤ more) :
    Replays styled anyLexeme true (bareQuery depth) (bareQuery more) (Definition.seen styled) := by
  refine .position fun _ _ => (selectionSet_replays less).last fun selections others same => ?_
  simp only [Definition.seen_mk, same]

theorem fragment_replays (less : depth ≤ more) :
    Replays styled anyLexeme true (fragment depth) (fragment more) (Definition.seen styled) := by
  refine (expectWord_replays "fragment").bind fun _ _ _ => ?_
  refine .peek fun _ _ same _ => .iteOf (by rw [Token.text_eq_of_seen same]) (fun _ => .failAt)
    fun _ => ?_
  refine name_replays.any.bindSame fun name => ?_
  refine (variableDefinitions_replays less).bind fun _ _ _ => ?_
  refine (expectWord_replays "on").bind fun _ _ _ => ?_
  refine name_replays.bindSame fun condition => ?_
  refine (directives_replays false less).bind fun directives others sameDirectives => ?_
  refine (selectionSet_replays less).last fun selections others sameSelections => ?_
  simp only [Definition.seen_mk, sameDirectives, sameSelections]

end QueryTree.Grammar
