import QueryTree.Proofs.Normal.Slots

/-!
# Which definitions have a normal form

A definition has a normal form exactly if it declares its formal arguments at most
once and each of its spreads carries no directive, one `@arguments`, or one `@relay`
that only masks.  Otherwise a second declaration is reported, or else what is wrong
with the first spread that breaks the rule.
-/

namespace QueryTree

/-! ## Judgements -/

/-- What is accepted of a kind of things, and what is reported of all others. -/
structure Judgement (α : Type) where
  accepts : α → Prop
  refuses : α → Diagnostic → Prop
  decided : ∀ item, accepts item ↔ ∀ found, ¬ refuses item found

namespace Judgement

variable {α β γ : Type} (judgement : Judgement α)

/-- Whether all things in a list are accepted. -/
def AcceptsAll (items : List α) : Prop := ∀ item ∈ items, judgement.accepts item

/-- Whether the first thing in a list that is not accepted is refused for a reason. -/
def RefusesFirst (items : List α) (found : Diagnostic) : Prop :=
  ∃ before item after, items = before ++ item :: after ∧ judgement.AcceptsAll before ∧
    judgement.refuses item found

theorem refusesFirst_nil (found : Diagnostic) : ¬ judgement.RefusesFirst [] found := by
  rintro ⟨before, item, after, split, -⟩
  simp at split

variable {found : Diagnostic}

theorem refusesFirst_cons {item : α} {items : List α} :
    judgement.RefusesFirst (item :: items) found ↔
      judgement.refuses item found ∨
        judgement.accepts item ∧ judgement.RefusesFirst items found := by
  constructor
  · rintro ⟨before, refused, after, split, accepted, reason⟩
    cases before with
    | nil =>
      cases split
      exact .inl reason
    | cons first before =>
      cases split
      refine .inr ⟨accepted _ List.mem_cons_self, before, refused, after, rfl, ?_, reason⟩
      exact (List.forall_mem_cons.mp accepted).2
  · rintro (reason | ⟨accepted, before, refused, after, rfl, others, reason⟩)
    · exact ⟨[], item, items, rfl, fun _ member => (List.not_mem_nil member).elim, reason⟩
    · exact ⟨item :: before, refused, after, rfl, List.forall_mem_cons.mpr ⟨accepted, others⟩,
        reason⟩

theorem refusesFirst_append {lefts rights : List α} :
    judgement.RefusesFirst (lefts ++ rights) found ↔
      judgement.RefusesFirst lefts found ∨
        judgement.AcceptsAll lefts ∧ judgement.RefusesFirst rights found := by
  induction lefts with
  | nil => simp [refusesFirst_nil, AcceptsAll]
  | cons left lefts ih =>
    have accepted : judgement.AcceptsAll (left :: lefts) ↔
        judgement.accepts left ∧ judgement.AcceptsAll lefts := List.forall_mem_cons
    rw [List.cons_append, refusesFirst_cons, refusesFirst_cons, ih, accepted]
    tauto

/-- A list is accepted if all that is in it is, and refused for the first thing that
is not. -/
def onList : Judgement (List α) where
  accepts := judgement.AcceptsAll
  refuses := judgement.RefusesFirst
  decided items := by
    induction items with
    | nil => simp [refusesFirst_nil, AcceptsAll]
    | cons item items ih =>
      have all : judgement.AcceptsAll (item :: items) ↔
          judgement.accepts item ∧ judgement.AcceptsAll items := List.forall_mem_cons
      have first := judgement.decided item
      rw [all, ih]
      simp only [refusesFirst_cons, not_or, not_and]
      constructor
      · rintro ⟨accepted, others⟩ found
        exact ⟨first.mp accepted found, fun _ => others found⟩
      · intro unrefused
        have accepted := first.mpr fun found => (unrefused found).1
        exact ⟨accepted, fun found => (unrefused found).2 accepted⟩

/-! ### Computations that follow a judgement -/

/-- Whether a computation fails exactly with what is reported of a thing. -/
def Governs (item : α) (result : Except Diagnostic β) : Prop :=
  ∀ found, result = .error found ↔ judgement.refuses item found

variable {judgement}

/-- Such a computation succeeds exactly if the thing is accepted. -/
theorem Governs.succeeds_iff {item : α} {result : Except Diagnostic β}
    (governs : judgement.Governs item result) : Succeeds result ↔ judgement.accepts item := by
  rw [judgement.decided]
  constructor
  · rintro ⟨value, rfl⟩ found refused
    cases (governs found).mpr refused
  · intro unrefused
    cases result with
    | ok value => exact ⟨value, rfl⟩
    | error found => exact (unrefused found ((governs found).mp rfl)).elim

/-- Steps that cannot fail may follow. -/
theorem Governs.andThen {item : α} {first : Except Diagnostic β}
    {next : β → Except Diagnostic γ} (governs : judgement.Governs item first)
    (succeeds : ∀ value, Succeeds (next value)) : judgement.Governs item (first >>= next) := by
  intro found
  rw [bind_eq_error_iff, governs found, or_iff_left]
  rintro ⟨value, -, failed⟩
  obtain ⟨result, isResult⟩ := succeeds value
  cases isResult.symm.trans failed

theorem Governs.pure (value : β) :
    judgement.onList.Governs [] (Pure.pure value : Except Diagnostic β) := by
  intro found
  constructor
  · intro failed
    cases failed
  · exact fun refused => (judgement.refusesFirst_nil found refused).elim

/-- Two computations in sequence follow the judgement on two lists in sequence. -/
theorem Governs.bind {lefts rights : List α} {first : Except Diagnostic β}
    {next : β → Except Diagnostic γ} (ofFirst : judgement.onList.Governs lefts first)
    (ofNext : ∀ value, judgement.onList.Governs rights (next value)) :
    judgement.onList.Governs (lefts ++ rights) (first >>= next) := by
  intro found
  change _ ↔ judgement.RefusesFirst (lefts ++ rights) found
  rw [bind_eq_error_iff, refusesFirst_append]
  refine or_congr (ofFirst found) ?_
  constructor
  · rintro ⟨value, isValue, failed⟩
    exact ⟨ofFirst.succeeds_iff.mp ⟨value, isValue⟩, (ofNext value found).mp failed⟩
  · rintro ⟨accepted, refused⟩
    obtain ⟨value, isValue⟩ := ofFirst.succeeds_iff.mpr accepted
    exact ⟨value, isValue, (ofNext value found).mpr refused⟩

end Judgement

/-! ## Spreads -/

/-- Whether a value is written as a boolean. -/
def Value.IsBoolean (value : Value) : Prop := ∃ truth position, value = .boolean truth position

/-- Whether an argument is a mask that is written out. -/
def Argument.IsMask (argument : Argument) : Prop :=
  argument.name = "mask" ∧ argument.value.IsBoolean

namespace Spread

/-- An argument of `@relay` on a spread has to be a mask. -/
def maskJudgement (spread : Spread) : Judgement Argument where
  accepts := Argument.IsMask
  refuses argument found :=
    argument.name ≠ "mask" ∧
        found = .atPosition (.invalidMaskArgument spread.name argument.name) argument.position ∨
      argument.name = "mask" ∧ ¬ argument.value.IsBoolean ∧
        found = .atPosition (.invalidRelayArgument "mask" "a boolean literal") argument.position
  decided argument := by
    by_cases named : argument.name = "mask"
    · by_cases isBoolean : argument.value.IsBoolean
      · simp [Argument.IsMask, named, isBoolean]
      · simp [Argument.IsMask, named, isBoolean]
    · simp [Argument.IsMask, named]

/-- Whether a spread carries no directive, one `@arguments`, or one `@relay` that only
masks. -/
def Accepted (spread : Spread) : Prop :=
  spread.directives = [] ∨
    ∃ directive, spread.directives = [directive] ∧
      (directive.name = argumentsName ∨
        directive.name = relayName ∧ ∀ argument ∈ directive.arguments, argument.IsMask)

/-- What is reported of a spread. -/
inductive Refused (spread : Spread) : Diagnostic → Prop where
  | conflicting {first second : Directive} {others : List Directive}
      (several : spread.directives = first :: second :: others) :
      Refused spread (.atPosition (.conflictingSpreadDirectives spread.name) second.position)
  | unsupported {directive : Directive} (only : spread.directives = [directive])
      (unknown : directive.name ≠ argumentsName ∧ directive.name ≠ relayName) :
      Refused spread (.atPosition (.unsupportedSpreadDirective directive.name spread.name)
        directive.position)
  | relay {directive : Directive} {found : Diagnostic} (only : spread.directives = [directive])
      (named : directive.name = relayName)
      (first : spread.maskJudgement.RefusesFirst directive.arguments found) :
      Refused spread found

variable {spread : Spread}

theorem not_refused_of_bare (bare : spread.directives = []) (found : Diagnostic) :
    ¬ spread.Refused found := by
  intro refused
  cases refused with
  | conflicting several => simp [bare] at several
  | unsupported only unknown | relay only named first => simp [bare] at only

theorem refused_single {directive : Directive} {found : Diagnostic}
    (only : spread.directives = [directive]) : spread.Refused found ↔
      (directive.name ≠ argumentsName ∧ directive.name ≠ relayName) ∧
          found = .atPosition (.unsupportedSpreadDirective directive.name spread.name)
            directive.position ∨
        directive.name = relayName ∧
          spread.maskJudgement.RefusesFirst directive.arguments found := by
  constructor
  · intro refused
    cases refused with
    | conflicting several => simp [only] at several
    | unsupported same unknown =>
      cases only.symm.trans same
      exact .inl ⟨unknown, rfl⟩
    | relay same named first =>
      cases only.symm.trans same
      exact .inr ⟨named, first⟩
  · rintro (⟨unknown, rfl⟩ | ⟨named, first⟩)
    · exact .unsupported only unknown
    · exact .relay only named first

/-- What is accepted and what is refused of spreads. -/
def judgement : Judgement Spread where
  accepts := Accepted
  refuses := Refused
  decided spread := by
    cases directives : spread.directives with
    | nil => exact iff_of_true (.inl directives) (not_refused_of_bare directives)
    | cons directive others =>
      cases others with
      | nil =>
        have masks := spread.maskJudgement.onList.decided directive.arguments
        have distinct : argumentsName ≠ relayName := by decide
        simp only [Accepted, refused_single directives, directives, reduceCtorEq, false_or,
          List.cons.injEq, and_true, exists_eq_left', not_or, not_and]
        by_cases binds : directive.name = argumentsName
        · simp [binds, distinct]
        · by_cases relays : directive.name = relayName
          · simp only [relays, distinct.symm, ne_eq, not_true, and_false, false_implies,
              true_and, false_or, true_implies]
            exact masks
          · simp [binds, relays]
      | cons second others =>
        refine iff_of_false ?_ fun unrefused => unrefused _ (.conflicting directives)
        simp [Accepted, directives]

theorem mask_governs (spread : Spread) (masked : Bool) (arguments : List Argument) :
    spread.maskJudgement.onList.Governs arguments (spread.mask masked arguments) := by
  induction arguments generalizing masked with
  | nil => exact .pure masked
  | cons argument arguments ih =>
    intro found
    change _ ↔ spread.maskJudgement.RefusesFirst (argument :: arguments) found
    rw [Judgement.refusesFirst_cons, mask]
    dsimp only [maskJudgement, Argument.IsMask]
    by_cases named : argument.name = "mask"
    · rw [if_pos named]
      split
      next truth position isTruth =>
        have isBoolean : argument.value.IsBoolean := ⟨truth, position, isTruth⟩
        simp only [named, isBoolean, ne_eq, not_true, false_and, and_false, or_self, and_self,
          true_and, false_or]
        exact ih truth found
      next other =>
        have isOther : ¬ argument.value.IsBoolean := by
          rintro ⟨truth, position, isTruth⟩
          exact other truth position isTruth
        simp [named, isOther, eq_comm]
    · simp [named, eq_comm]

/-- A spread has a mode exactly if it is accepted. -/
theorem mode_governs (spread : Spread) : judgement.Governs spread spread.mode := by
  intro found
  change _ ↔ spread.Refused found
  unfold mode
  cases directives : spread.directives with
  | nil =>
    refine iff_of_false ?_ (not_refused_of_bare directives found)
    intro failed
    cases failed
  | cons directive others =>
    cases others with
    | nil =>
      have distinct : argumentsName ≠ relayName := by decide
      rw [refused_single directives]
      dsimp only
      by_cases binds : directive.name = argumentsName
      · simp [binds, distinct]
      · by_cases relays : directive.name = relayName
        · have masks : spread.maskJudgement.onList.Governs directive.arguments
              (spread.mask true directive.arguments >>= fun masked =>
                .ok (SpreadMode.plain masked)) :=
            (spread.mask_governs true directive.arguments).andThen fun _ => ⟨_, rfl⟩
          rw [if_neg binds, if_pos relays]
          simp only [relays, ne_eq, not_true, and_false, false_and, true_and, false_or]
          exact masks found
        · simp [binds, relays, eq_comm]
    | cons second others =>
      constructor
      · intro failed
        cases failed
        exact .conflicting directives
      · intro refused
        cases refused with
        | conflicting several =>
          cases directives.symm.trans several
          rfl
        | unsupported only unknown | relay only named first => simp [directives] at only

end Spread

/-! ## Selections -/

namespace Normal

theorem addSpread_governs (spread : Spread) (tables : Tables) :
    Spread.judgement.onList.Governs [spread] (addSpread spread tables) := by
  intro found
  have single : Spread.judgement.RefusesFirst [spread] found ↔ spread.Refused found := by
    rw [Judgement.refusesFirst_cons]
    simp [Judgement.refusesFirst_nil, Spread.judgement]
  refine Iff.trans ?_ single.symm
  exact spread.mode_governs.andThen (fun mode => by cases mode <;> exact ⟨_, rfl⟩) found

/-- Normalizing selections fails exactly for the first spread in them that is not
accepted. -/
theorem selections_governs (inner : List Selection) (tables : Tables) :
    Spread.judgement.onList.Governs (Selection.spreads inner) (selections tables inner) := by
  induction inner using Selection.inductionAll generalizing tables with
  | nil =>
    rw [selections, Selection.spreads]
    exact .pure _
  | field head inner rest ofInner ofRest | inline head inner rest ofInner ofRest =>
    rw [selections, Normal.selection, Selection.spreads, Selection.spreadsOf]
    -- Whether a spread is accepted does not depend on the tables before it.
    refine .bind ((ofInner _).andThen fun _ => .pure _) fun _ => ?_
    exact (ofRest _).andThen fun _ => .pure _
  | spread head rest ofRest =>
    rw [selections, Normal.selection, Selection.spreads, Selection.spreadsOf]
    refine .bind ((addSpread_governs head tables).andThen fun _ => .pure _) fun _ => ?_
    exact (ofRest _).andThen fun _ => .pure _

end Normal

/-! ## Definitions -/

namespace Definition

/-- The directives of a definition that declare its formal arguments. -/
def declarations (definition : Definition) : List Directive :=
  definition.directives.filter (·.name = argumentDefinitionsName)

/-- Whether a definition declares its formal arguments at most once and all of its
spreads are accepted. -/
structure Accepted (definition : Definition) : Prop where
  declarations : definition.declarations.length ≤ 1
  spreads : ∀ spread ∈ Selection.spreads definition.selections, spread.Accepted

/-- What is reported of a definition: its second declaration of formal arguments, and
without one the first of its spreads that is not accepted. -/
inductive Refused (definition : Definition) : Diagnostic → Prop where
  | declaration {first second : Directive} {others : List Directive}
      (several : definition.declarations = first :: second :: others) :
      Refused definition
        (.atPosition (.duplicateArgumentDefinitions definition.name) second.position)
  | spread {before after : List Spread} {spread : Spread} {found : Diagnostic}
      (atMostOne : definition.declarations.length ≤ 1)
      (split : Selection.spreads definition.selections = before ++ spread :: after)
      (accepted : ∀ other ∈ before, other.Accepted) (refused : spread.Refused found) :
      Refused definition found

variable {definition : Definition}

theorem refused_of_declarations {found : Diagnostic}
    (atMostOne : definition.declarations.length ≤ 1) : definition.Refused found ↔
      Spread.judgement.RefusesFirst (Selection.spreads definition.selections) found := by
  constructor
  · intro refused
    cases refused with
    | declaration several => simp [several] at atMostOne
    | spread _ split accepted refused => exact ⟨_, _, _, split, accepted, refused⟩
  · rintro ⟨before, spread, after, split, accepted, refused⟩
    exact .spread atMostOne split accepted refused

theorem exists_second (several : ¬ definition.declarations.length ≤ 1) :
    ∃ first second others, definition.declarations = first :: second :: others := by
  cases declared : definition.declarations with
  | nil => simp [declared] at several
  | cons first rest =>
    cases rest with
    | nil => simp [declared] at several
    | cons second others => exact ⟨first, second, others, rfl⟩

/-- What is accepted and what is refused of definitions. -/
def judgement : Judgement Definition where
  accepts := Accepted
  refuses := Refused
  decided definition := by
    by_cases atMostOne : definition.declarations.length ≤ 1
    · simp only [refused_of_declarations atMostOne]
      refine Iff.trans ?_ (Spread.judgement.onList.decided _)
      exact ⟨Accepted.spreads, Accepted.mk atMostOne⟩
    · obtain ⟨first, second, others, several⟩ := exists_second atMostOne
      exact iff_of_false (fun accepted => atMostOne accepted.declarations)
        fun unrefused => unrefused _ (.declaration several)

/-- Normalizing a definition fails exactly for what is reported of it. -/
theorem normalize_governs (definition : Definition) :
    judgement.Governs definition definition.normalize := by
  intro found
  change _ ↔ definition.Refused found
  unfold normalize
  dsimp only
  split
  case h_1 first second others several =>
      constructor
      · intro failed
        cases failed
        exact .declaration several
      · intro refused
        cases refused with
        | declaration same =>
          cases several.symm.trans same
          rfl
        | spread atMostOne => simp [declarations, several] at atMostOne
  case h_2 fewer =>
      have atMostOne : definition.declarations.length ≤ 1 := by
        by_contra several
        obtain ⟨first, second, others, isSeveral⟩ := exists_second several
        exact fewer first second others isSeveral
      rw [refused_of_declarations atMostOne]
      exact (Normal.selections_governs _ _).andThen (fun _ => .pure _) found

/-- A definition has a normal form exactly if it declares its formal arguments at most
once and each of its spreads carries no directive, one `@arguments`, or one `@relay`
that only masks.  It fails for its second declaration, or else for the first spread
that is not accepted. -/
theorem normalize_verdict (definition : Definition) :
    ((∃ form, definition.normalize = .ok form) ↔ definition.Accepted) ∧
      ∀ found, definition.normalize = .error found ↔ definition.Refused found :=
  ⟨definition.normalize_governs.succeeds_iff, definition.normalize_governs⟩

end Definition

end QueryTree
