import QueryTree.Proofs.Document.Lexeme
import QueryTree.Proofs.Language.Reads

/-!
# Values are read from their lexemes

The grammar reads the lexemes of a value, of arguments and directives and of a
type as what they were written for, up to positions and the style of strings.
The depth that bounds the nesting suffices if it is the number of lexemes.
-/

namespace QueryTree

/-! ## The first lexeme -/

namespace Parser

theorem headKind_append (lefts rights : List Lexeme) (kind : TokenKind) :
    headKind (lefts ++ rights) kind = headKind lefts (headKind rights kind) := by
  cases lefts <;> rfl

variable {kind : TokenKind}

/-- A group begins with its bracket if it is there. -/
theorem headKind_group {α : Type} (allowed : TokenKind → Prop) {opening close : TokenKind}
    {lexemes : α → List Lexeme} {items : List α} (opens : allowed opening) (other : allowed kind) :
    allowed (headKind (Lexeme.group opening close lexemes items) kind) := by
  cases items with
  | nil => exact other
  | cons item items => exact opens

theorem headKind_directives (allowed : TokenKind → Prop) {directives : List Directive}
    (opens : allowed .atSign) (other : allowed kind) :
    allowed (headKind (directives.flatMap Directive.lexemes) kind) := by
  cases directives with
  | nil => exact other
  | cons directive directives => exact opens

end Parser

variable {α : Type} {close opening : TokenKind} {lexemes : α → List Lexeme} {items : List α}

theorem length_le_flatMap {item : α} (member : item ∈ items) :
    (lexemes item).length ≤ (items.flatMap lexemes).length := by
  rw [List.flatMap_def]
  exact (List.sublist_flatten_of_mem (List.mem_map_of_mem member)).length_le

/-- Less depth is needed inside of brackets. -/
theorem enclosed_deep {item : α} {depth : Nat}
    (deep : (Lexeme.enclosed opening close (items.flatMap lexemes)).length ≤ depth + 1)
    (member : item ∈ items) : (lexemes item).length ≤ depth := by
  have inside : (lexemes item).length ≤ (items.flatMap lexemes).length := length_le_flatMap member
  rw [Lexeme.enclosed, List.length_cons, List.length_append] at deep
  omega

theorem group_deep {item : α} (member : item ∈ items) :
    (lexemes item).length ≤ (Lexeme.group opening close lexemes items).length := by
  have inside : (lexemes item).length ≤ (items.flatMap lexemes).length := length_le_flatMap member
  cases items with
  | nil => cases member
  | cons first others =>
    simp only [Lexeme.group, Lexeme.enclosed, List.isEmpty_cons, Bool.false_eq_true, if_false,
      List.length_cons, List.length_append]
    omega

theorem lexemes_value_le (field : Named Value) :
    field.value.lexemes.length ≤ (Argument.lexemes field).length := by
  rw [Argument.lexemes, List.length_cons, List.length_cons]
  omega

/-! ## Values -/

/-- No value begins with a closing bracket. -/
theorem Value.lexemes_starts (value : Value) :
    ∃ lexeme others, value.lexemes = lexeme :: others ∧ lexeme.kind ≠ .bracketRight := by
  cases value <;> exact ⟨_, _, rfl, by rintro ⟨⟩⟩

namespace Grammar

open QueryTree.Parser

theorem variableName_reads (name : String) :
    Reads variableName [.mark .dollar, .word name] anyKind (· = name) :=
  (expect_reads (.mark .dollar) rfl).cons fun _ _ => name_reads name

variable {content : Parser Value} {position : Position} {constant : Bool} {depth : Nat}

theorem named_reads {entry : Named Value}
    (reads : Reads content entry.value.lexemes anyKind fun found =>
      found.stripped = entry.value.stripped) :
    Reads (named content) (Argument.lexemes entry) anyKind fun found =>
      Argument.stripped found = Argument.stripped entry := by
  refine position_reads.free fun _ _ => (name_reads _).cons fun name isName => ?_
  refine (expect_reads (.mark .colon) rfl).cons fun _ _ => reads.last fun value same => .pure ?_
  rw [Argument.stripped, Argument.stripped, isName, same]

/-- Fields of objects and arguments end at a closing bracket. -/
theorem named_items {close : TokenKind} {entries : List (Named Value)}
    (reads : ∀ entry ∈ entries, Reads content entry.value.lexemes anyKind fun found =>
      found.stripped = entry.value.stripped) (other : close ≠ .name) :
    Items (named content) close anyKind Argument.lexemes Argument.stripped entries where
  reads entry member := named_reads (reads entry member)
  starts _ _ := ⟨_, _, rfl, trivial, other.symm⟩
  closes := trivial

theorem stripped_nameValue {name : String} (fresh : name ∉ Value.reservedWords) (place : Position) :
    (nameValue name place).stripped = (Value.enum name position).stripped := by
  simp only [Value.reservedWords, List.mem_cons, List.not_mem_nil, or_false, not_or] at fresh
  simp [nameValue, fresh, Value.stripped]

theorem list_reads {values : List Value}
    (reads : ∀ value ∈ values, Reads (Grammar.value constant depth) value.lexemes anyKind
      fun found => found.stripped = value.stripped) :
    Reads (Grammar.value constant (depth + 1)) (Value.list values position).lexemes anyKind
      fun found => found.stripped = (Value.list values position).stripped := by
  have items : Items (Grammar.value constant depth) .bracketRight anyKind Value.lexemes
      Value.stripped values := by
    refine ⟨reads, fun value _ => ?_, trivial⟩
    obtain ⟨lexeme, others, written, notClose⟩ := value.lexemes_starts
    exact ⟨lexeme, others, written, trivial, notClose⟩
  rw [Value.lexemes, Value.lexemesOfList_eq_flatMap]
  refine .peek rfl fun _ _ => (group_reads items rfl rfl).last fun found same => .pure ?_
  rw [Value.stripped, Value.stripped, Value.strippedAll_eq_map, Value.strippedAll_eq_map, same]

theorem object_reads {fields : List (Named Value)}
    (reads : ∀ field ∈ fields, Reads (Grammar.value constant depth) field.value.lexemes anyKind
      fun found => found.stripped = field.value.stripped) :
    Reads (Grammar.value constant (depth + 1)) (Value.object fields position).lexemes anyKind
      fun found => found.stripped = (Value.object fields position).stripped := by
  have items : Items (named (Grammar.value constant depth)) .braceRight anyKind
    Argument.lexemes Argument.stripped fields := named_items reads (by decide)
  rw [Value.lexemes, Value.lexemesOfFields_eq_flatMap]
  refine .peek rfl fun _ _ => (group_reads items rfl rfl).last fun found same => .pure ?_
  rw [Value.stripped, Value.stripped, Value.strippedFields_eq_map, Value.strippedFields_eq_map,
    same]

/-- A value is read from its lexemes, and a constant one also where no variable may
occur. -/
theorem value_reads {value : Value} (formed : value.WellFormed)
    (fixed : constant = true → value.variableNames = []) (deep : value.lexemes.length ≤ depth) :
    Reads (Grammar.value constant depth) value.lexemes anyKind fun found =>
      found.stripped = value.stripped := by
  -- Every level takes a lexeme, so a depth of as many as there are is never used up.
  induction value using Value.induction generalizing depth with
  | ofVariable name position =>
    cases depth with
    | zero => cases deep
    | succ depth =>
      have notConstant : ¬ constant = true := fun isConstant => nomatch fixed isConstant
      refine .peek rfl fun place _ => .neg notConstant <|
        (variableName_reads name).last fun found isName => .pure ?_
      rw [isName]
      rfl
  | int | float | string | null =>
    cases depth with
    | zero => cases deep
    | succ depth => exact .peek rfl fun _ _ => (next_reads rfl).last fun _ _ => .pure rfl
  | boolean value position =>
    cases depth with
    | zero => cases deep
    | succ depth =>
      refine .peek rfl fun _ _ => (next_reads rfl).last fun _ _ => .pure ?_
      cases value <;> rfl
  | enum name position =>
    cases depth with
    | zero => cases deep
    | succ depth =>
      exact .peek rfl fun _ _ => (next_reads rfl).last fun _ _ =>
        .pure (stripped_nameValue formed.2 _)
  | list values position ih =>
    cases depth with
    | zero => cases deep
    | succ depth =>
      rw [Value.lexemes, Value.lexemesOfList_eq_flatMap] at deep
      refine list_reads fun value member => ih value member
        (Value.allWellFormed_iff.mp formed value member) (fun isConstant => ?_)
        (enclosed_deep deep member)
      have none := fixed isConstant
      rw [Value.variableNames, Value.namesOfList_eq_flatMap, List.flatMap_eq_nil_iff] at none
      exact none value member
  | object fields position ih =>
    cases depth with
    | zero => cases deep
    | succ depth =>
      rw [Value.lexemes, Value.lexemesOfFields_eq_flatMap] at deep
      refine object_reads fun field member => ih field member
        (Value.fieldsWellFormed_iff.mp formed field member).2 (fun isConstant => ?_)
        (Nat.le_trans (lexemes_value_le field) (enclosed_deep deep member))
      have none := fixed isConstant
      rw [Value.variableNames, Value.namesOfFields_eq_flatMap, List.flatMap_eq_nil_iff] at none
      exact none field member

/-! ## Arguments and directives -/

theorem arguments_reads {arguments : List Argument} (formed : Value.FieldsWellFormed arguments)
    (deep : (Argument.lexemesAll arguments).length ≤ depth) :
    Reads (Grammar.arguments false depth) (Argument.lexemesAll arguments) (· ≠ .parenLeft)
      fun found => found.map Argument.stripped = arguments.map Argument.stripped := by
  refine groupOfSome_reads_group (named_items (fun argument member => ?_) (by decide)) rfl rfl
  refine value_reads (Value.fieldsWellFormed_iff.mp formed argument member).2 nofun ?_
  exact Nat.le_trans (lexemes_value_le argument) (Nat.le_trans (group_deep member) deep)

theorem directive_reads {directive : Directive} (formed : directive.WellFormed)
    (deep : directive.lexemes.length ≤ depth) :
    Reads (Grammar.directive false depth) directive.lexemes (· ≠ .parenLeft) fun found =>
      found.stripped = directive.stripped := by
  have deep : (Argument.lexemesAll directive.arguments).length ≤ depth := by
    rw [Directive.lexemes, List.length_cons, List.length_cons] at deep
    omega
  refine (expect_reads (.mark .atSign) rfl).cons fun _ _ => position_reads.free fun _ _ =>
    (name_reads _).cons fun name isName => (arguments_reads formed.2 deep).last
      fun arguments same => .pure ?_
  rw [Directive.stripped, Directive.stripped, isName, same]

/-- Whether a kind of token does not continue directives. -/
def endsDirectives (kind : TokenKind) : Prop := kind ≠ .atSign ∧ kind ≠ .parenLeft

instance (kind : TokenKind) : Decidable (endsDirectives kind) :=
  inferInstanceAs (Decidable (_ ∧ _))

theorem directivesUpTo_reads {bound : Nat} {directives : List Directive}
    (formed : ∀ directive ∈ directives, directive.WellFormed)
    (deep : (directives.flatMap Directive.lexemes).length ≤ depth)
    (enough : directives.length ≤ bound) :
    Reads (directivesUpTo false depth bound) (directives.flatMap Directive.lexemes)
      endsDirectives fun found =>
        found.map Directive.stripped = directives.map Directive.stripped := by
  induction directives generalizing bound with
  | nil =>
    cases bound with
    | zero => exact .pure rfl
    | succ bound =>
      exact .peekAfter fun token ends => .neg ends.1 (.pure rfl)
  | cons directive directives ih =>
    cases bound with
    | zero => cases enough
    | succ bound =>
      rw [List.flatMap_cons, List.length_append] at deep
      have first := directive_reads (formed directive List.mem_cons_self)
        (Nat.le_trans (Nat.le_add_right _ _) deep)
      have rest := ih (List.forall_mem_cons.mp formed).2
        (Nat.le_trans (Nat.le_add_left _ _) deep) (Nat.le_of_succ_le_succ enough)
      rw [List.flatMap_cons]
      refine .peek rfl fun _ _ => .pos rfl <| first.bind
        (fun found same => rest.last fun others sames => .pure ?_) fun kind ends => ?_
      · rw [List.map_cons, List.map_cons, same, sames]
      · exact headKind_directives (· ≠ .parenLeft) (by decide) ends.2

theorem directives_reads {directives : List Directive}
    (formed : ∀ directive ∈ directives, directive.WellFormed)
    (deep : (directives.flatMap Directive.lexemes).length ≤ depth) :
    Reads (Grammar.directives false depth) (directives.flatMap Directive.lexemes)
      endsDirectives fun found =>
        found.map Directive.stripped = directives.map Directive.stripped := by
  intro tokens rest spelled ends
  have enough : directives.length ≤ (tokens ++ rest).length := by
    have bound : directives.length ≤ (directives.flatMap Directive.lexemes).length :=
      length_le_flatMap_of_ne_nil fun _ _ => List.cons_ne_nil _ _
    rw [← spelled, List.length_map] at bound
    rw [List.length_append]
    omega
  exact directivesUpTo_reads formed deep enough tokens rest spelled ends

/-! ## Types -/

theorem bang_reads (nonNull : Bool) :
    Reads (skip .bang) (TypeRef.bang nonNull) (· ≠ .bang) (· = nonNull) := by
  cases nonNull with
  | true => exact (skip_reads rfl).weaken (fun _ _ => trivial) fun _ same => same
  | false => exact skip_reads_nothing .bang

theorem typeRef_reads {type : TypeRef} (deep : type.lexemes.length ≤ depth) :
    Reads (typeRef depth) type.lexemes (· ≠ .bang) fun found => found.stripped = type.stripped := by
  induction type generalizing depth with
  | named name nonNull position =>
    cases depth with
    | zero => cases deep
    | succ depth =>
      refine (skip_reads_nothing .bracketLeft).bind (fun isList isFalse => .neg (by simp [isFalse])
        (position_reads.free fun _ _ => (name_reads name).cons fun found isName =>
          (bang_reads nonNull).last fun mark same => .pure ?_)) fun _ _ => by rintro ⟨⟩
      rw [isName, same]
      rfl
  | list element nonNull position ih =>
    cases depth with
    | zero => cases deep
    | succ depth =>
      have written : (TypeRef.list element nonNull position).lexemes = .mark .bracketLeft ::
          (element.lexemes ++ .mark .bracketRight :: TypeRef.bang nonNull) := by
        simp [TypeRef.lexemes, Lexeme.enclosed]
      rw [written, List.length_cons, List.length_append] at deep
      have smaller : element.lexemes.length ≤ depth := by omega
      rw [written]
      refine (skip_reads rfl).cons fun isList isTrue => .pos isTrue <|
        position_reads.free fun _ _ => (ih smaller).bind
          (fun found same => (expect_reads (.mark .bracketRight) rfl).cons fun _ _ =>
            (bang_reads nonNull).last fun mark sameMark => .pure ?_) fun _ _ => by rintro ⟨⟩
      rw [sameMark, TypeRef.stripped, TypeRef.stripped, same]

end Grammar

end QueryTree
