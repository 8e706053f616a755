import QueryTree.Language.Grammar
import QueryTree.Proofs.Diagnostic.Success
import QueryTree.Proofs.Language.Token
import QueryTree.Proofs.Language.Value

/-!
# What is read is well formed

Names that were read are spelled like names, numbers like numbers, and a value
that is spelled with a name other than the three reserved words is an
enumeration value.  A parser `Yields` a property if everything that it reads from
well spelled tokens has it; the rules below follow the combinators of the parser,
so that a grammar is treated rule by rule.
-/

namespace QueryTree

/-- Whether a text is spelled like a name. -/
def IsName (text : String) : Prop := Lexer.isNameText text.toList = true

instance (text : String) : Decidable (IsName text) :=
  inferInstanceAs (Decidable (Lexer.isNameText text.toList = true))

/-- The characters of a name are not empty and begin as a name does. -/
theorem IsName.exists_cons {name : String} (named : IsName name) :
    ∃ first rest, name.toList = first :: rest ∧ Lexer.isNameStart first = true ∧
      rest.all Lexer.isNameRest = true := by
  unfold IsName at named
  cases characters : name.toList with
  | nil =>
    rw [characters] at named
    cases named
  | cons first rest =>
    rw [characters, Lexer.isNameText, Bool.and_eq_true] at named
    exact ⟨first, rest, rfl, named⟩

theorem IsName.all {name : String} (named : IsName name) :
    name.toList.all Lexer.isNameRest = true := by
  obtain ⟨first, rest, characters, starts, all⟩ := named.exists_cons
  have isRest : Lexer.isNameRest first = true := by
    simp only [Lexer.isNameStart, Lexer.isNameRest, Char.isAlphanum, Bool.or_eq_true] at starts ⊢
    exact starts.imp_left .inl
  rw [characters, List.all_cons, isRest, all, Bool.and_true]

/-- Whether a text is a number, with or without a mark of a floating point number. -/
def IsNumber (isFloat : Bool) (text : String) : Prop :=
  Lexer.isNumber isFloat text.toList = true

theorem IsNumber.isNumberText {isFloat : Bool} {text : String} (number : IsNumber isFloat text) :
    Lexer.isNumberText isFloat text.toList = true :=
  Lexer.isNumberText_of_isNumber number

namespace Token

variable {token : Token}

theorem isName_text (kind : token.kind = .name) (spelled : token.isSpelled = true) :
    IsName token.text := by
  rw [isSpelled, kind] at spelled
  exact spelled

theorem isNumber_text_of_int (kind : token.kind = .int) (spelled : token.isSpelled = true) :
    IsNumber false token.text := by
  rw [isSpelled, kind] at spelled
  exact spelled

theorem isNumber_text_of_float (kind : token.kind = .float) (spelled : token.isSpelled = true) :
    IsNumber true token.text := by
  rw [isSpelled, kind] at spelled
  exact spelled

end Token

namespace Value

/-- The words that are no enumeration values. -/
def reservedWords : List String := ["true", "false", "null"]

mutual

/-- Whether the names and numbers in a value are spelled like such. -/
def WellFormed : Value → Prop
  | .variable name _ => IsName name
  | .int raw _ => IsNumber false raw
  | .float raw _ => IsNumber true raw
  | .string _ _ _ => True
  | .boolean _ _ => True
  | .null _ => True
  | .enum name _ => IsName name ∧ name ∉ reservedWords
  | .list values _ => AllWellFormed values
  | .object fields _ => FieldsWellFormed fields

/-- Whether all values of a list are well formed. -/
def AllWellFormed : List Value → Prop
  | [] => True
  | value :: values => WellFormed value ∧ AllWellFormed values

/-- Whether the names and the values of all fields are well formed. -/
def FieldsWellFormed : List (Named Value) → Prop
  | [] => True
  | ⟨name, value, _⟩ :: fields => IsName name ∧ WellFormed value ∧ FieldsWellFormed fields

end

theorem allWellFormed_iff {values : List Value} :
    AllWellFormed values ↔ ∀ value ∈ values, value.WellFormed := by
  induction values with
  | nil => simp [AllWellFormed]
  | cons value values ih => simp [AllWellFormed, ih]

theorem fieldsWellFormed_iff {fields : List (Named Value)} :
    FieldsWellFormed fields ↔ ∀ field ∈ fields, IsName field.name ∧ field.value.WellFormed := by
  induction fields with
  | nil => simp [FieldsWellFormed]
  | cons field fields ih => simp [FieldsWellFormed, ih, and_assoc]

end Value

/-- Whether the name and the arguments of a directive are well formed. -/
def Directive.WellFormed (directive : Directive) : Prop :=
  IsName directive.name ∧ Value.FieldsWellFormed directive.arguments

/-- Whether the name below all modifiers of a type is one. -/
def TypeRef.WellFormed (type : TypeRef) : Prop := IsName type.baseName

namespace Parser

variable {α β : Type}

/-- Whether some tokens are what is left of others after valid ones were taken. -/
def Leaves (tokens rest : List Token) : Prop :=
  ∃ taken, tokens = taken ++ rest ∧ ∀ token ∈ taken, ∀ fault, token.kind ≠ .invalid fault

namespace Leaves

variable {tokens between rest : List Token}

theorem refl (tokens : List Token) : Leaves tokens tokens :=
  ⟨[], rfl, by simp⟩

theorem trans (before : Leaves tokens between) (after : Leaves between rest) :
    Leaves tokens rest := by
  obtain ⟨first, rfl, firstValid⟩ := before
  obtain ⟨second, rfl, secondValid⟩ := after
  refine ⟨first ++ second, (List.append_assoc ..).symm, fun token member => ?_⟩
  rcases List.mem_append.mp member with inFirst | inSecond
  · exact firstValid token inFirst
  · exact secondValid token inSecond

theorem subset (leaves : Leaves tokens rest) : rest ⊆ tokens := by
  obtain ⟨taken, rfl, _⟩ := leaves
  exact List.subset_append_right taken rest

end Leaves

/-- Everything that a parser reads from well spelled tokens has a property, and
what it takes is valid. -/
def Yields (parser : Parser α) (good : α → Prop) : Prop :=
  ∀ tokens : List Token, (∀ token ∈ tokens, token.isSpelled = true) →
    ∀ value rest, parser tokens = .ok (value, rest) → good value ∧ Leaves tokens rest

namespace Yields

variable {good : α → Prop} {fine : β → Prop}

theorem pure {value : α} (holds : good value) : Yields (Pure.pure value) good := by
  intro tokens spelled found rest read
  cases read
  exact ⟨holds, .refl _⟩

theorem bind {first : Parser α} {second : α → Parser β} (before : Yields first good)
    (after : ∀ value, good value → Yields (second value) fine) :
    Yields (first >>= second) fine := by
  intro tokens spelled found rest read
  obtain ⟨⟨value, between⟩, isFirst, isSecond⟩ := exists_of_bind_eq_ok read
  obtain ⟨holds, left⟩ := before tokens spelled value between isFirst
  obtain ⟨holdsNext, leftNext⟩ := after value holds between
    (fun token member => spelled token (left.subset member)) found rest isSecond
  exact ⟨holdsNext, left.trans leftNext⟩

theorem weaken {parser : Parser α} {other : α → Prop} (yields : Yields parser good)
    (weaker : ∀ value, good value → other value) : Yields parser other := by
  intro tokens spelled value rest read
  obtain ⟨holds, left⟩ := yields tokens spelled value rest read
  exact ⟨weaker value holds, left⟩

variable {condition : Prop}

theorem ite [Decidable condition] {yes no : Parser α} (whenTrue : condition → Yields yes good)
    (whenFalse : ¬condition → Yields no good) : Yields (if condition then yes else no) good := by
  by_cases holds : condition
  · rw [if_pos holds]
    exact whenTrue holds
  · rw [if_neg holds]
    exact whenFalse holds

/-- Two ways to read the same thing, which is then used in one way. -/
theorem branch [Decidable condition] {yes no : Parser α} {join : α → Parser β}
    (whenTrue : condition → Yields yes good) (whenFalse : ¬condition → Yields no good)
    (after : ∀ value, good value → Yields (join value) fine) :
    Yields (if condition then yes >>= join else no >>= join) fine :=
  ite (fun holds => bind (whenTrue holds) after) fun fails => bind (whenFalse fails) after

theorem failAt (token : Token) (fault : SyntaxFault) :
    Yields (Parser.failAt token fault) good := by
  intro tokens spelled value rest read
  cases read

theorem map {parser : Parser α} (image : α → β) (yields : Yields parser fun value =>
    fine (image value)) : Yields (image <$> parser) fine :=
  bind yields fun _ holds => pure holds

end Yields

theorem get_yields : Yields (get : Parser (List Token)) fun tokens =>
    ∀ token ∈ tokens, token.isSpelled = true := by
  intro tokens spelled value rest read
  cases read
  exact ⟨spelled, .refl _⟩

variable {tokens : List Token}

theorem isSpelled_headD (spelled : ∀ token ∈ tokens, token.isSpelled = true) :
    (tokens.headD .missing).isSpelled = true := by
  cases tokens with
  | nil => rfl
  | cons first rest => exact spelled first List.mem_cons_self

theorem peek_yields : Yields peek fun token => token.isSpelled = true :=
  .bind get_yields fun _ spelled => .pure (isSpelled_headD spelled)

/-- Taking a token gives the one at the front, unless it is invalid. -/
theorem next_apply (tokens : List Token) :
    next tokens = match (tokens.headD .missing).kind with
      | .invalid fault => .error ⟨.lexical fault, (tokens.headD .missing).position⟩
      | _ => .ok (tokens.headD .missing, tokens.tail) := by
  change (match (tokens.headD .missing).kind with
    | .invalid fault => failAt (tokens.headD .missing) (.lexical fault)
    | _ => _) tokens = _
  generalize (tokens.headD .missing).kind = kind
  cases kind <;> rfl

theorem next_eq_ok {rest : List Token} {found : Token} (read : next tokens = .ok (found, rest)) :
    found = tokens.headD .missing ∧ rest = tokens.tail ∧
      ∀ fault, found.kind ≠ .invalid fault := by
  rw [next_apply] at read
  split at read
  next => cases read
  next valid =>
    cases read
    exact ⟨rfl, rfl, valid⟩

theorem next_yields : Yields next fun token => token.isSpelled = true := by
  intro tokens spelled found rest read
  obtain ⟨rfl, rfl, valid⟩ := next_eq_ok read
  refine ⟨isSpelled_headD spelled, ?_⟩
  cases tokens with
  | nil => exact .refl _
  | cons first others =>
    refine ⟨[first], rfl, fun token member => ?_⟩
    rw [List.mem_singleton.mp member]
    exact valid

theorem refuse_yields {good : α → Prop} (token : Token) : Yields (refuse token) good :=
  .failAt _ _

theorem refuseNext_yields {good : α → Prop} : Yields refuseNext good :=
  .bind peek_yields fun token _ => refuse_yields token

theorem expect_yields (kind : TokenKind) :
    Yields (expect kind) fun token => token.kind = kind ∧ token.isSpelled = true := by
  intro tokens spelled found rest read
  change (if (tokens.headD .missing).kind = kind then next
    else failAt (tokens.headD .missing) (.expectedKind kind (tokens.headD .missing).kind))
      tokens = _ at read
  split at read
  next same =>
    obtain ⟨holds, left⟩ := next_yields tokens spelled found rest read
    exact ⟨⟨(next_eq_ok read).1 ▸ same, holds⟩, left⟩
  next => cases read

theorem name_yields : Yields name IsName :=
  .bind (expect_yields .name) fun _ ⟨kind, spelled⟩ => .pure (Token.isName_text kind spelled)

theorem position_yields : Yields position fun _ => True :=
  .bind peek_yields fun _ _ => .pure trivial

theorem skip_yields (kind : TokenKind) : Yields (skip kind) fun _ => True :=
  .bind peek_yields fun _ _ =>
    .ite (fun _ => .bind next_yields fun _ _ => .pure trivial) fun _ => .pure trivial

theorem expectWord_yields (word : String) : Yields (expectWord word) fun _ => True :=
  .bind peek_yields fun _ _ =>
    .ite (fun _ => next_yields.weaken fun _ _ => trivial) fun _ => .failAt _ _

section Groups

variable {item : Parser α} {good : α → Prop} (reads : Yields item good)

include reads

theorem itemsUntil_yields (close : TokenKind) (bound : Nat) :
    Yields (itemsUntil close item bound) fun items => ∀ value ∈ items, good value := by
  induction bound with
  | zero => exact refuseNext_yields
  | succ bound ih =>
    refine .bind peek_yields fun token _ =>
      .ite (fun _ => .pure (List.forall_mem_nil _)) fun _ => ?_
    exact .bind reads fun first holds => .bind ih fun others every =>
      .pure (List.forall_mem_cons.mpr ⟨holds, every⟩)

theorem items_yields (close : TokenKind) :
    Yields (items close item) fun items => ∀ value ∈ items, good value :=
  .bind get_yields fun _ _ => itemsUntil_yields reads close _

theorem group_yields (opening close : TokenKind) :
    Yields (group opening close item) fun items => ∀ value ∈ items, good value := by
  refine .bind (skip_yields opening) fun opened _ =>
    .ite (fun _ => ?_) fun _ => .pure (List.forall_mem_nil _)
  exact .bind (items_yields reads close) fun items every =>
    .bind next_yields fun _ _ => .pure every

theorem groupOfSome_yields (opening close : TokenKind) :
    Yields (groupOfSome opening close item) fun items => ∀ value ∈ items, good value := by
  refine .bind (skip_yields opening) fun opened _ =>
    .ite (fun _ => ?_) fun _ => .pure (List.forall_mem_nil _)
  refine .bind (items_yields reads close) fun items every => .bind peek_yields fun last _ => ?_
  exact .ite (fun _ => .failAt _ _) fun _ => .bind next_yields fun _ _ => .pure every

end Groups

end Parser

/-! ## The shared grammar -/

namespace Grammar

open QueryTree.Parser

theorem typeRef_yields (depth : Nat) : Yields (typeRef depth) TypeRef.WellFormed := by
  induction depth with
  | zero => exact refuseNext_yields
  | succ depth ih =>
    refine .bind (skip_yields _) fun isList _ => .ite (fun _ => ?_) fun _ => ?_
    · exact .bind position_yields fun _ _ => .bind ih fun element formed =>
        .bind (expect_yields _) fun _ _ => .bind (skip_yields _) fun _ _ => .pure formed
    · exact .bind position_yields fun _ _ => .bind name_yields fun name named =>
        .bind (skip_yields _) fun _ _ => .pure named

theorem variableName_yields : Yields variableName IsName :=
  .bind (expect_yields _) fun _ _ => name_yields

theorem named_yields {content : Parser Value} {good : Value → Prop} (reads : Yields content good) :
    Yields (named content) fun entry => IsName entry.name ∧ good entry.value :=
  .bind position_yields fun _ _ => .bind name_yields fun _ isName =>
    .bind (expect_yields _) fun _ _ => .bind reads fun _ formed => .pure ⟨isName, formed⟩

theorem nameValue_wellFormed {text : String} (position : Position) (isName : IsName text) :
    (nameValue text position).WellFormed ∧ (nameValue text position).variableNames = [] := by
  unfold nameValue
  split
  · exact ⟨trivial, rfl⟩
  split
  · exact ⟨trivial, rfl⟩
  split
  · exact ⟨trivial, rfl⟩
  · exact ⟨⟨isName, by simp_all [Value.reservedWords]⟩, rfl⟩

variable (constant : Bool)

/-- Values are well formed, and a constant one has no variables. -/
theorem value_yields (depth : Nat) : Yields (value constant depth)
    fun value => value.WellFormed ∧ (constant = true → value.variableNames = []) := by
  induction depth with
  | zero => exact refuseNext_yields
  | succ depth ih =>
    refine .bind peek_yields fun token spelled => ?_
    -- The token that was looked at decides the rule and carries the text.
    split
    · refine .bind (group_yields ih _ _) fun values every => .pure ⟨?_, fun fixed => ?_⟩
      · exact Value.allWellFormed_iff.mpr fun value member => (every value member).1
      · rw [Value.variableNames, Value.namesOfList_eq_flatMap, List.flatMap_eq_nil_iff]
        exact fun value member => (every value member).2 fixed
    · refine .bind (group_yields (named_yields ih) _ _) fun fields every =>
        .pure ⟨?_, fun fixed => ?_⟩
      · exact Value.fieldsWellFormed_iff.mpr fun field member =>
          ⟨(every field member).1, (every field member).2.1⟩
      · rw [Value.variableNames, Value.namesOfFields_eq_flatMap, List.flatMap_eq_nil_iff]
        exact fun field member => (every field member).2.2 fixed
    · exact .ite (fun _ => refuseNext_yields) fun free => .bind variableName_yields
        fun _ isName => .pure ⟨isName, fun fixed => absurd fixed free⟩
    next kind =>
      exact .bind next_yields fun _ _ =>
        .pure ⟨Token.isNumber_text_of_int kind spelled, fun _ => rfl⟩
    next kind =>
      exact .bind next_yields fun _ _ =>
        .pure ⟨Token.isNumber_text_of_float kind spelled, fun _ => rfl⟩
    · exact .bind next_yields fun _ _ => .pure ⟨trivial, fun _ => rfl⟩
    · exact .bind next_yields fun _ _ => .pure ⟨trivial, fun _ => rfl⟩
    next kind =>
      have named := nameValue_wellFormed token.position (Token.isName_text kind spelled)
      exact .bind next_yields fun _ _ => .pure ⟨named.1, fun _ => named.2⟩
    · exact refuseNext_yields

theorem arguments_yields (depth : Nat) : Yields (arguments constant depth) Value.FieldsWellFormed :=
  (groupOfSome_yields (named_yields (value_yields constant depth)) _ _).weaken
    fun _ every => Value.fieldsWellFormed_iff.mpr fun argument member =>
      ⟨(every argument member).1, (every argument member).2.1⟩

theorem directive_yields (depth : Nat) : Yields (directive constant depth) Directive.WellFormed :=
  .bind (expect_yields _) fun _ _ => .bind position_yields fun _ _ =>
    .bind name_yields fun _ isName => .bind (arguments_yields constant depth) fun _ formed =>
      .pure ⟨isName, formed⟩

theorem directivesUpTo_yields (depth bound : Nat) :
    Yields (directivesUpTo constant depth bound)
      fun directives => ∀ directive ∈ directives, directive.WellFormed := by
  induction bound with
  | zero => exact .pure (List.forall_mem_nil _)
  | succ bound ih =>
    refine .bind peek_yields fun token _ =>
      .ite (fun _ => ?_) fun _ => .pure (List.forall_mem_nil _)
    exact .bind (directive_yields constant depth) fun first formed =>
      .bind ih fun others every => .pure (List.forall_mem_cons.mpr ⟨formed, every⟩)

theorem directives_yields (depth : Nat) :
    Yields (directives constant depth)
      fun directives => ∀ directive ∈ directives, directive.WellFormed :=
  .bind get_yields fun _ _ => directivesUpTo_yields constant depth _

end Grammar

end QueryTree
