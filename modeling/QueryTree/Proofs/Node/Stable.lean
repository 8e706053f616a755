import QueryTree.Proofs.Diagnostic.Success
import QueryTree.Proofs.Language.WellFormed
import QueryTree.Proofs.Node.Values

/-!
# Values with a stable text

A literal is stable if all numbers in it are JSON numbers and nothing in it is a
value of the host.  Numbers of the query language are such numbers.  A tree in which
all values are stable can be written as JSON.
-/

namespace QueryTree

/-! ## Numbers -/

namespace JsonNumber

open QueryTree.Lexer

theorem takeChar_minus (characters : List Char) :
    (takeChar (· == '-') characters).2 = afterSign characters := by
  unfold takeChar afterSign
  split
  · rfl
  next first rest =>
    by_cases isSign : first = '-'
    · subst isSign
      rfl
    · simp [isSign]

theorem takeChar_exponentSign (characters : List Char) :
    (takeChar (fun c => c == '-' || c == '+') characters).2 = afterExponentSign characters := by
  unfold takeChar afterExponentSign
  split
  · rfl
  next first rest =>
    by_cases isMinus : first = '-'
    · subst isMinus
      rfl
    · by_cases isPlus : first = '+'
      · subst isPlus
        rfl
      · simp [isMinus, isPlus]

variable {characters digits done : List Char} {marked : Bool}

/-- Digits up to something else, of which there is at least one. -/
theorem exists_digit (some : ¬(takeChars Char.isDigit characters).1.isEmpty = true) :
    ∃ digit rest, characters = digit :: rest ∧ digit.isDigit = true ∧
      (takeChars Char.isDigit characters).2 = rest.dropWhile Char.isDigit := by
  cases characters with
  | nil => simp [takeChars] at some
  | cons digit rest =>
    by_cases isDigit : digit.isDigit = true
    · exact ⟨digit, rest, rfl, isDigit, List.dropWhile_cons_of_pos isDigit⟩
    · simp [takeChars, isDigit] at some

/-- An exponent that is read up to the end is one in JSON. -/
theorem isExponent_of_exponent {isFloat : Bool}
    (read : exponent done isFloat characters = .done digits marked []) :
    isExponent characters = true := by
  cases characters with
  | nil => rfl
  | cons mark rest =>
    by_cases isMark : (mark == 'e' || mark == 'E') = true
    · have taken : takeChar (fun c => c == 'e' || c == 'E') (mark :: rest) = ([mark], rest) :=
        if_pos isMark
      simp only [exponent, taken, takeChar_exponentSign, List.isEmpty_cons,
        Bool.false_eq_true, if_false] at read
      split at read
      · cases read
      next some =>
        obtain ⟨digit, others, isDigits, isDigit, ends⟩ := exists_digit some
        injection read with _ _ atEnd
        have all : (digit :: others).all Char.isDigit = true := by
          have whole := List.takeWhile_append_dropWhile (p := Char.isDigit)
            (l := afterExponentSign rest)
          rw [show (afterExponentSign rest).dropWhile Char.isDigit = [] from atEnd,
            List.append_nil] at whole
          rw [← isDigits, ← whole]
          exact List.all_takeWhile
        simp only [isExponent, isDigits, isMark, all, List.isEmpty_cons]
        rfl
    · have taken : takeChar (fun c => c == 'e' || c == 'E') (mark :: rest) =
          ([], mark :: rest) := if_neg isMark
      simp only [exponent, taken, List.isEmpty_nil, if_true] at read
      cases read

/-- A fraction with an exponent that is read up to the end is one in JSON. -/
theorem any_afterFraction?_of_fraction (read : fraction done characters = .done digits marked []) :
    (afterFraction? characters).any isExponent = true := by
  cases characters with
  | nil => rfl
  | cons point rest =>
    by_cases isPoint : point = '.'
    · subst isPoint
      have taken : takeChar (· == '.') ('.' :: rest) = (['.'], rest) := rfl
      simp only [fraction, taken, List.isEmpty_cons, Bool.false_eq_true, if_false] at read
      split at read
      · cases read
      next some =>
        obtain ⟨digit, others, rfl, isDigit, ends⟩ := exists_digit some
        rw [ends] at read
        simp [afterFraction?, isDigit, isExponent_of_exponent read]
    · have taken : takeChar (· == '.') (point :: rest) = ([], point :: rest) :=
        if_neg (by simpa using isPoint)
      simp only [fraction, taken, List.isEmpty_nil, if_true] at read
      have follows : afterFraction? (point :: rest) = some (point :: rest) := by
        unfold afterFraction?
        split <;> simp_all
      simp [follows, isExponent_of_exponent read]

/-- A number that is read up to the end is one in JSON. -/
theorem any_afterWhole?_of_number (read : number characters = .done digits marked []) :
    ((afterWhole? (afterSign characters)).bind afterFraction?).any isExponent = true := by
  simp only [number, takeChar_minus] at read
  cases rest : afterSign characters with
  | nil =>
    rw [rest] at read
    simp [takeChar, takeChars] at read
  | cons first others =>
    rw [rest] at read
    by_cases isZero : first = '0'
    · subst isZero
      have taken : takeChar (· == '0') ('0' :: others) = (['0'], others) := rfl
      simp only [taken, List.isEmpty_cons, Bool.false_eq_true, if_false] at read
      split at read
      · exact any_afterFraction?_of_fraction read
      · cases read
    · have taken : takeChar (· == '0') (first :: others) = ([], first :: others) :=
        if_neg (by simpa using isZero)
      simp only [taken, List.isEmpty_nil, if_true] at read
      split at read
      · cases read
      next some =>
        obtain ⟨digit, others, same, isDigit, ends⟩ := exists_digit some
        cases same
        rw [ends] at read
        have follows : afterWhole? (first :: others) =
            Option.some (others.dropWhile Char.isDigit) := by
          unfold afterWhole?
          split <;> simp_all
        simpa [follows] using any_afterFraction?_of_fraction read

end JsonNumber

/-- A number of the query language is a JSON number. -/
theorem IsNumber.isJsonNumber {isFloat : Bool} {raw : String} (whole : IsNumber isFloat raw) :
    QueryTree.isJsonNumber raw = true :=
  JsonNumber.any_afterWhole?_of_number (Lexer.isNumber_iff.mp whole)

/-! ## Literals -/

/-- Whether a literal has a stable text. -/
inductive Literal.Stable : Literal → Prop where
  | null : Stable .null
  | bool (value : Bool) : Stable (.bool value)
  | string (text : String) : Stable (.string text)
  | number {raw : String} (isNumber : isJsonNumber raw = true) : Stable (.number raw)
  | list {items : List Literal} (each : ∀ item ∈ items, Stable item) : Stable (.list items)
  | object {fields : List (String × Literal)} (each : ∀ field ∈ fields, Stable field.2) :
      Stable (.object fields)
  | ofVariable (name : String) : Stable (.variable name)
  | substitution (name : String) : Stable (.substitution name)

namespace Literal

theorem numberJson_succeeds {raw : String} (isNumber : isJsonNumber raw = true) :
    Succeeds (numberJson raw) := by
  unfold numberJson
  rw [if_pos isNumber]
  split <;> exact ⟨_, rfl⟩

theorem checkItems_eq_ok {items : List Literal} (each : ∀ item ∈ items, item.check = .ok ()) :
    checkItems items = .ok () := by
  induction items with
  | nil => rfl
  | cons item items ih =>
    rw [checkItems, each item List.mem_cons_self]
    exact ih (List.forall_mem_cons.mp each).2

theorem jsonItems_eq_mapM (items : List Literal) : jsonItems items = items.mapM json := by
  induction items with
  | nil => rfl
  | cons item items ih => rw [jsonItems, List.mapM_cons, ih]

theorem jsonFields_succeeds {fields : List (String × Literal)}
    (each : ∀ field ∈ fields, field.2.check = .ok () ∧ Succeeds field.2.json) :
    Succeeds (jsonFields fields) := by
  induction fields with
  | nil => exact ⟨[], rfl⟩
  | cons field fields ih =>
    obtain ⟨name, value⟩ := field
    obtain ⟨checked, written⟩ := each _ List.mem_cons_self
    rw [jsonFields, checked]
    exact written.bind fun _ =>
      .bind (ih (List.forall_mem_cons.mp each).2) fun _ => .pure _

/-- A stable literal passes the check and can be written. -/
theorem Stable.written {literal : Literal} (stable : literal.Stable) :
    literal.check = .ok () ∧ Succeeds literal.json := by
  induction stable with
  | null | bool value | string text => exact ⟨rfl, _, rfl⟩
  | number isNumber => exact ⟨rfl, numberJson_succeeds isNumber⟩
  | list each ih =>
    rw [check, json, jsonItems_eq_mapM]
    exact ⟨checkItems_eq_ok fun item member => (ih item member).1,
      .bind (.mapM fun item member => (ih item member).2) fun _ => .pure _⟩
  | object each ih =>
    rw [json]
    exact ⟨rfl, .bind (jsonFields_succeeds ih) fun _ => .pure _⟩
  | ofVariable name | substitution name => exact ⟨rfl, _, rfl⟩

theorem jsonEntries_succeeds {entries : List (String × Literal)}
    (each : ∀ entry ∈ entries, entry.2.Stable) : Succeeds (jsonEntries entries) := by
  induction entries with
  | nil => exact ⟨[], rfl⟩
  | cons entry entries ih =>
    obtain ⟨key, value⟩ := entry
    rw [jsonEntries]
    exact .bind (each _ List.mem_cons_self).written.2 fun _ =>
      .bind (ih (List.forall_mem_cons.mp each).2) fun _ => .pure _

end Literal

/-! ## Arguments -/

/-- Whether an argument has a stable text. -/
inductive ArgumentValue.Stable : ArgumentValue → Prop where
  | ofVariable (name : String) : Stable (.variable name)
  | substitution (name : String) : Stable (.substitution name)
  | literal {value : Literal} (stable : value.Stable) : Stable (.literal value)
  | list {items : List ArgumentValue} (each : ∀ item ∈ items, Stable item) : Stable (.list items)
  | absent : Stable .absent

namespace ArgumentValue

theorem jsonItems_eq_mapM (items : List ArgumentValue) : jsonItems items = items.mapM json := by
  induction items with
  | nil => rfl
  | cons item items ih => rw [jsonItems, List.mapM_cons, ih]

/-- A stable argument can be written. -/
theorem Stable.json_succeeds {argument : ArgumentValue} (stable : argument.Stable) :
    Succeeds argument.json := by
  induction stable with
  | ofVariable name | substitution name => exact ⟨_, rfl⟩
  | literal stable =>
    obtain ⟨checked, written⟩ := stable.written
    rw [json, checked]
    exact written.bind fun _ => .pure _
  | list each ih =>
    rw [json, jsonItems_eq_mapM]
    exact .bind (.mapM ih) fun _ => .pure _
  | absent => exact ⟨_, rfl⟩

theorem Stable.of_literal {value : Literal} (stable : (ArgumentValue.literal value).Stable) :
    value.Stable := by
  cases stable with
  | literal stable => exact stable

end ArgumentValue

/-! ## Nodes -/

/-- Whether all of some values have a stable text. -/
def AllStable (values : List ArgumentValue) : Prop := ∀ value ∈ values, value.Stable

variable {lefts rights : List ArgumentValue} {α : Type}

theorem AllStable.left (stable : AllStable (lefts ++ rights)) : AllStable lefts :=
  fun value member => stable value (List.mem_append_left _ member)

theorem AllStable.right (stable : AllStable (lefts ++ rights)) : AllStable rights :=
  fun value member => stable value (List.mem_append_right _ member)

theorem AllStable.of_flatMap {items : List α} {values : α → List ArgumentValue}
    (stable : AllStable (items.flatMap values)) {item : α} (member : item ∈ items) :
    AllStable (values item) :=
  fun value inItem => stable value (List.mem_flatMap.mpr ⟨item, member, inItem⟩)

theorem Metadata.json_succeeds {metadata : Metadata} (stable : AllStable metadata.values) :
    Succeeds metadata.json := by
  refine .bind (Literal.jsonEntries_succeeds fun entry member => ?_) fun _ => .pure _
  exact (stable _ (List.mem_map_of_mem member)).of_literal

theorem jsonList_succeeds {json : α → Written JsonValue} {items : Option (List α)}
    (each : ∀ item ∈ items.getD [], Succeeds (json item)) : Succeeds (jsonList json items) := by
  cases items with
  | none => exact ⟨_, rfl⟩
  | some items => exact .bind (.mapM each) fun _ => .pure _

theorem Call.json_succeeds {call : Call} (stable : AllStable call.values) :
    Succeeds call.json :=
  .bind (Metadata.json_succeeds (List.forall_mem_cons.mp stable).2)
    fun _ => .bind (stable _ List.mem_cons_self).json_succeeds fun _ => .pure _

theorem DirectiveNode.json_succeeds {directive : DirectiveNode}
    (stable : AllStable directive.values) : Succeeds directive.json := by
  refine .bind (.mapM fun argument member => ?_) fun _ => .pure _
  exact .bind (stable _ (List.mem_map_of_mem member)).json_succeeds fun _ => .pure _

variable {calls : Option (List Call)} {directives : Option (List DirectiveNode)}
variable {metadata : Metadata}

/-- The parts of a node with stable values can be written. -/
theorem nodeValues_succeeds (stable : AllStable (nodeValues calls directives metadata)) :
    Succeeds (jsonList Call.json calls) ∧ Succeeds (jsonList DirectiveNode.json directives) ∧
      Succeeds metadata.json :=
  ⟨jsonList_succeeds fun _ member => Call.json_succeeds (stable.left.left.of_flatMap member),
    jsonList_succeeds fun _ member =>
      DirectiveNode.json_succeeds (stable.left.right.of_flatMap member),
    Metadata.json_succeeds stable.right⟩

theorem FragmentNode.json_succeeds {head : FragmentNode} (children : JsonValue)
    (stable : AllStable (nodeValues none head.directives head.metadata)) :
    Succeeds (head.json children) := by
  obtain ⟨_, ofDirectives, ofFacts⟩ := nodeValues_succeeds stable
  exact ofDirectives.bind fun _ => ofFacts.bind fun _ => .pure _

namespace Child

theorem jsonAll_eq_mapM (children : List Child) : jsonAll children = children.mapM json := by
  induction children with
  | nil => rfl
  | cons child children ih => rw [jsonAll, List.mapM_cons, ih]

theorem jsonAll_succeeds {children : List Child}
    (each : ∀ child ∈ children, AllStable child.values → Succeeds child.json)
    (stable : AllStable (valuesOf children)) : Succeeds (jsonAll children) := by
  rw [jsonAll_eq_mapM]
  rw [valuesOf_eq_flatMap] at stable
  exact .mapM fun child member => each child member (stable.of_flatMap member)

/-- A node can be written if all values in it and below it are stable. -/
theorem json_succeeds (child : Child) (stable : AllStable child.values) : Succeeds child.json := by
  induction child using Child.induction with
  | field head shape children ih =>
    rw [values] at stable
    obtain ⟨ofCalls, ofDirectives, ofFacts⟩ := nodeValues_succeeds stable.left
    rw [json]
    exact ofCalls.bind fun _ => .bind (jsonAll_succeeds ih stable.right) fun _ =>
      ofDirectives.bind fun _ => ofFacts.bind fun _ => .pure _
  | fragment head shape children ih =>
    rw [values] at stable
    rw [json]
    exact .bind (jsonAll_succeeds ih stable.right) fun _ =>
      FragmentNode.json_succeeds _ stable.left
  | reference slot => exact ⟨_, rfl⟩

end Child

theorem Children.json_succeeds {children : Children}
    (stable : AllStable (Child.valuesOf children.items)) : Succeeds children.json :=
  .bind (Child.jsonAll_succeeds (fun child _ => child.json_succeeds) stable) fun _ => .pure _

/-- A tree can be written if all values in it are stable. -/
theorem Root.json_succeeds {root : Root} (stable : AllStable root.values) :
    Succeeds root.json := by
  cases root with
  | query head children | mutation head children | subscription head children =>
    obtain ⟨ofCalls, ofDirectives, ofFacts⟩ := nodeValues_succeeds stable.left
    exact ofCalls.bind fun _ => .bind (Children.json_succeeds stable.right) fun _ =>
      ofDirectives.bind fun _ => ofFacts.bind fun _ => .pure _
  | fragment head children =>
    exact .bind (Children.json_succeeds stable.right) fun _ =>
      FragmentNode.json_succeeds _ stable.left
  | createFragment head children parameters =>
    exact .bind (Children.json_succeeds stable.right) fun _ =>
      .bind (FragmentNode.json_succeeds _ stable.left) fun _ => .pure _

end QueryTree
