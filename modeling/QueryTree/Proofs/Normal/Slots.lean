import QueryTree.Normal.Form
import QueryTree.Proofs.Diagnostic.Success
import QueryTree.Proofs.Document.Definition
import QueryTree.Proofs.Text.Separated

/-!
# The slots of spreads

The slots of a normal form are told from the spreads of the definition alone, in
the order in which they are met: a spread with arguments is numbered among those of
its fragment, and of the spreads with one slot name the first one fills the slot.
-/

namespace QueryTree

/-! ## Spreads in their order -/

namespace Selection

mutual

/-- The spreads of a selection, at any depth and in their order. -/
def spreadsOf : Selection → List Spread
  | .field _ selections => spreads selections
  | .spread head => [head]
  | .inline _ selections => spreads selections

/-- The spreads of selections, at any depth and in their order. -/
def spreads : List Selection → List Spread
  | [] => []
  | selection :: selections => spreadsOf selection ++ spreads selections

end

end Selection

namespace Spread

/-- The bindings of `@arguments`, if the spread has that directive. -/
def bindings? (spread : Spread) : Option (List Argument) :=
  (Directive.find? argumentsName spread.directives).map (·.arguments)

/-- What the slot of a spread has to hold: the fragment and the bindings. -/
def content (spread : Spread) : String × Option (List Argument) :=
  (spread.name, spread.bindings?)

/-- How many spreads bind the arguments of a fragment. -/
def boundCount (fragment : String) (spreads : List Spread) : Nat :=
  spreads.countP fun spread => spread.name = fragment && spread.bindings?.isSome

/-- The name of the slot of a spread that comes after others. -/
def slotName (earlier : List Spread) (spread : Spread) : String :=
  match spread.bindings? with
  | none => spread.name
  | some _ => boundName spread.name (boundCount spread.name earlier + 1)

/-- Spreads that come after others, each with the name of its slot. -/
def entries (earlier : List Spread) : List Spread → List (String × Spread)
  | [] => []
  | spread :: spreads =>
    (slotName earlier spread, spread) :: entries (earlier ++ [spread]) spreads

theorem entries_append (earlier lefts rights : List Spread) :
    entries earlier (lefts ++ rights) =
      entries earlier lefts ++ entries (earlier ++ lefts) rights := by
  induction lefts generalizing earlier with
  | nil => rw [List.nil_append, entries, List.nil_append, List.append_nil]
  | cons left lefts ih =>
    rw [List.cons_append, entries, ih, entries, List.cons_append, List.append_assoc]
    rfl

theorem entries_spreads (earlier spreads : List Spread) :
    (entries earlier spreads).map (·.2) = spreads := by
  induction spreads generalizing earlier with
  | nil => rfl
  | cons spread spreads ih => rw [entries, List.map_cons, ih]

theorem boundCount_append (fragment : String) (lefts rights : List Spread) :
    boundCount fragment (lefts ++ rights) =
      boundCount fragment lefts + boundCount fragment rights :=
  List.countP_append

variable {spread : Spread}

/-- The ways in which a spread can be accepted. -/
theorem mode_cases {mode : SpreadMode} (accepted : spread.mode = .ok mode) :
    (spread.directives = [] ∧ mode = .plain true) ∨
      ∃ directive, spread.directives = [directive] ∧
        (directive.name = argumentsName ∧ mode = .bound directive.arguments ∨
          directive.name = relayName ∧
            ∃ masked, spread.mask true directive.arguments = .ok masked ∧
              mode = .plain masked) := by
  unfold Spread.mode at accepted
  split at accepted
  next none =>
    cases accepted
    exact .inl ⟨none, rfl⟩
  next directive only =>
    refine .inr ⟨directive, only, ?_⟩
    split at accepted
    next binds =>
      cases accepted
      exact .inl ⟨binds, rfl⟩
    next =>
      split at accepted
      next relays =>
        obtain ⟨masked, isMasked, accepted⟩ := exists_of_bind_eq_ok
          (show (spread.mask true directive.arguments >>= fun masked =>
            .ok (SpreadMode.plain masked)) = .ok mode from accepted)
        cases accepted
        exact .inr ⟨relays, masked, isMasked, rfl⟩
      next => cases accepted
  next => cases accepted

/-- An accepted spread binds arguments exactly if its mode does. -/
theorem bindings?_of_mode {mode : SpreadMode} (accepted : spread.mode = .ok mode) :
    spread.bindings? = match mode with
      | .plain _ => none
      | .bound arguments => some arguments := by
  obtain ⟨none, rfl⟩ | ⟨directive, only, ⟨binds, rfl⟩ | ⟨relays, masked, _, rfl⟩⟩ :=
    mode_cases accepted
  · simp [bindings?, none, Directive.find?]
  · simp [bindings?, only, Directive.find?, binds]
  · have unbound : directive.name ≠ argumentsName := by
      rw [relays]
      decide
    simp [bindings?, only, Directive.find?, unbound]

end Spread

/-! ## The tables along the spreads -/

/-- What a slot holds: the fragment and the bindings. -/
def Slot.content (slot : Slot) : String × Option (List Argument) := (slot.fragment, slot.arguments)

namespace Tables

/-- Variables concern neither the slots nor the counts. -/
theorem addArguments_slots_counts (tables : Tables) (arguments : List Argument) :
    (tables.addArguments arguments).slots = tables.slots ∧
      (tables.addArguments arguments).counts = tables.counts := by
  unfold addArguments
  generalize Value.namesOfFields arguments = names
  induction names generalizing tables with
  | nil => exact ⟨rfl, rfl⟩
  | cons name names ih =>
    have kept : (tables.addVariable name).slots = tables.slots ∧
        (tables.addVariable name).counts = tables.counts := by
      unfold addVariable
      split <;> exact ⟨rfl, rfl⟩
    rw [List.foldl_cons]
    exact ⟨(ih _).1.trans kept.1, (ih _).2.trans kept.2⟩

theorem count_increment (tables : Tables) (fragment other : String) :
    (tables.increment fragment).count other =
      tables.count other + if fragment = other then 1 else 0 := by
  unfold count increment
  rw [List.lookup_cons]
  by_cases same : other = fragment
  · subst same
    simp [count]
  · simp [beq_eq_false_iff_ne.mpr same, Ne.symm same]

/-- Of two slots with one name the first one stays, up to its mask. -/
theorem find?_addSlot (tables : Tables) (slot : Slot) (name : String) :
    (((tables.addSlot slot).slots.find? (·.name = name)).map Slot.content) =
      ((tables.slots.find? (·.name = name)).map Slot.content).or
        (if slot.name = name then some slot.content else none) := by
  unfold addSlot
  split
  case isTrue known =>
      have found : slot.name = name →
          ((tables.slots.find? (·.name = name)).map Slot.content).isSome = true := by
        rintro rfl
        rw [Option.isSome_map, List.find?_isSome]
        obtain ⟨other, member, same⟩ := List.any_eq_true.mp known
        exact ⟨other, member, same⟩
      have remasked : ((tables.slots.map fun known =>
          if known.name = slot.name then { known with masked := slot.masked } else known).find?
            (·.name = name)).map Slot.content =
              (tables.slots.find? (·.name = name)).map Slot.content := by
        rw [List.find?_map, Option.map_map]
        have sameName : ∀ known : Slot, (if known.name = slot.name
            then { known with masked := slot.masked } else known).name = known.name := by
          intro known
          split <;> rfl
        have sameContent : ∀ known : Slot, (if known.name = slot.name
            then { known with masked := slot.masked } else known).content = known.content := by
          intro known
          split <;> rfl
        simp only [Function.comp_def, sameName, sameContent]
      rw [remasked]
      by_cases same : slot.name = name
      · rw [Option.or_of_isSome (found same)]
      · rw [if_neg same, Option.or_none]
  case isFalse =>
      rw [List.find?_append, Option.map_or]
      by_cases same : slot.name = name
      · simp [same]
      · simp [same]

/-- The tables after the spreads that were met. -/
structure Follows (tables : Tables) (met : List Spread) : Prop where
  counts : ∀ fragment, tables.count fragment = Spread.boundCount fragment met
  slots : ∀ name, (tables.slots.find? (·.name = name)).map Slot.content =
    ((Spread.entries [] met).lookup name).map Spread.content

theorem follows_empty : Follows .empty [] where
  counts _ := rfl
  slots _ := rfl

namespace Follows

variable {tables next : Tables} {met : List Spread} (follows : Follows tables met)

include follows

/-- Only slots and counts matter. -/
theorem congr (sameSlots : next.slots = tables.slots) (sameCounts : next.counts = tables.counts) :
    Follows next met where
  counts fragment := by
    rw [← follows.counts, count, count, sameCounts]
  slots name := by
    rw [sameSlots, follows.slots]

theorem addArguments (arguments : List Argument) : (tables.addArguments arguments).Follows met :=
  have kept := tables.addArguments_slots_counts arguments
  follows.congr kept.1 kept.2

variable {slot : Slot} {spread : Spread}

/-- A slot of the name that a spread is given, with what the spread asks for. -/
theorem addSlot (named : slot.name = Spread.slotName met spread)
    (content : slot.content = spread.content)
    (counts : ∀ fragment, next.count fragment = Spread.boundCount fragment (met ++ [spread]))
    (sameSlots : next.slots = tables.slots) : Follows (next.addSlot slot) (met ++ [spread]) where
  counts fragment := by
    rw [← counts]
    unfold Tables.addSlot
    split <;> rfl
  slots name := by
    rw [find?_addSlot, sameSlots, follows.slots, Spread.entries_append, List.lookup_append,
      Option.map_or, List.nil_append, Spread.entries, Spread.entries, List.lookup_cons, named,
      content]
    by_cases same : name = Spread.slotName met spread
    · subst same
      simp
    · simp [beq_eq_false_iff_ne.mpr same, Ne.symm same]

/-- The slot of a spread has the name that the spreads before it tell, and the
tables follow the spread. -/
theorem addSpread (added : Normal.addSpread spread tables = .ok (slot, next)) :
    slot.name = Spread.slotName met spread ∧ Follows next (met ++ [spread]) := by
  unfold Normal.addSpread at added
  cases accepted : spread.mode with
  | error found =>
    rw [accepted] at added
    cases added
  | ok mode =>
    rw [accepted] at added
    have bindings := Spread.bindings?_of_mode accepted
    have counted (fragment : String) : Spread.boundCount fragment (met ++ [spread]) =
        tables.count fragment +
          if spread.name = fragment && spread.bindings?.isSome then 1 else 0 := by
      rw [Spread.boundCount_append, follows.counts]
      simp [Spread.boundCount, List.countP_cons]
    cases mode with
    | plain masked =>
      cases added
      have named : spread.name = Spread.slotName met spread := by
        rw [Spread.slotName, bindings]
      refine ⟨named, follows.addSlot named ?_ (fun fragment => ?_) rfl⟩
      · rw [Slot.content, Spread.content, bindings]
      · rw [counted, bindings]
        simp
    | bound arguments =>
      cases added
      have kept := tables.addArguments_slots_counts arguments
      -- The number in the name of the slot counts the spread itself.
      have count (fragment : String) :
          ((tables.addArguments arguments).increment spread.name).count fragment =
            Spread.boundCount fragment (met ++ [spread]) := by
        rw [count_increment, counted, bindings, Tables.count, Tables.count, kept.2]
        simp
      have named : Spread.boundName spread.name
          (((tables.addArguments arguments).increment spread.name).count spread.name) =
            Spread.slotName met spread := by
        rw [count, counted, follows.counts, Spread.slotName, bindings]
        simp
      refine ⟨named, follows.addSlot named ?_ count kept.1⟩
      rw [Slot.content, Spread.content, bindings]

end Follows

end Tables

/-! ## Normalizing selections -/

namespace Normal

/-- How selections become normal, from left to right and each with those below it. -/
inductive Normalizes : Tables → List Selection → List Selection → Tables → Prop where
  | nil (tables : Tables) : Normalizes tables [] [] tables
  | field {tables middle last : Tables} {head : Field} {inner inside rest others : List Selection}
      (below : Normalizes (addDirectives (tables.addArguments head.arguments)
        (keptDirectives head.directives)) inner inside middle)
      (after : Normalizes middle rest others last) :
      Normalizes tables (.field head inner :: rest)
        (.field { head with directives := keptDirectives head.directives } inside :: others) last
  | spread {tables middle last : Tables} {head : Spread} {slot : Slot}
      {rest others : List Selection} (added : addSpread head tables = .ok (slot, middle))
      (after : Normalizes middle rest others last) :
      Normalizes tables (.spread head :: rest)
        (.spread ⟨slot.name, [], head.position⟩ :: others) last
  | inline {tables middle last : Tables} {head : InlineFragment}
      {inner inside rest others : List Selection}
      (below : Normalizes (addDirectives tables (keptDirectives head.directives)) inner inside
        middle) (after : Normalizes middle rest others last) :
      Normalizes tables (.inline head inner :: rest)
        (.inline { head with directives := keptDirectives head.directives } inside :: others) last

variable {tables next : Tables} {inner rest normal : List Selection}

theorem exists_of_selections_cons {first : Selection}
    (normalized : selections tables (first :: rest) = .ok (normal, next)) :
    ∃ head middle others, selection tables first = .ok (head, middle) ∧
      selections middle rest = .ok (others, next) ∧ normal = head :: others := by
  rw [selections] at normalized
  obtain ⟨⟨head, middle⟩, isFirst, normalized⟩ := exists_of_bind_eq_ok normalized
  obtain ⟨⟨others, last⟩, areOthers, normalized⟩ := exists_of_bind_eq_ok normalized
  cases normalized
  exact ⟨head, middle, others, isFirst, areOthers, rfl⟩

theorem normalizes_of_selections (normalized : selections tables inner = .ok (normal, next)) :
    Normalizes tables inner normal next := by
  induction inner using Selection.inductionAll generalizing tables normal next with
  | nil =>
    rw [selections] at normalized
    cases normalized
    exact .nil tables
  | field head inner rest ofInner ofRest =>
    obtain ⟨first, middle, others, isFirst, areOthers, rfl⟩ := exists_of_selections_cons normalized
    rw [selection] at isFirst
    obtain ⟨⟨inside, last⟩, areInside, isFirst⟩ := exists_of_bind_eq_ok isFirst
    cases isFirst
    exact .field (ofInner areInside) (ofRest areOthers)
  | spread head rest ofRest =>
    obtain ⟨first, middle, others, isFirst, areOthers, rfl⟩ := exists_of_selections_cons normalized
    rw [selection] at isFirst
    obtain ⟨⟨slot, last⟩, added, isFirst⟩ := exists_of_bind_eq_ok isFirst
    cases isFirst
    exact .spread added (ofRest areOthers)
  | inline head inner rest ofInner ofRest =>
    obtain ⟨first, middle, others, isFirst, areOthers, rfl⟩ := exists_of_selections_cons normalized
    rw [selection] at isFirst
    obtain ⟨⟨inside, last⟩, areInside, isFirst⟩ := exists_of_bind_eq_ok isFirst
    cases isFirst
    exact .inline (ofInner areInside) (ofRest areOthers)

end Normal

namespace Tables

/-- Whether a relation between tables, the spreads that were met and those that they
became is kept by all that is noted. -/
structure Tracks (relation : Tables → List Spread → List Spread → Prop) : Prop where
  arguments : ∀ {tables met made} (arguments : List Argument), relation tables met made →
    relation (tables.addArguments arguments) met made
  spread : ∀ {tables next met made spread slot}, relation tables met made →
    Normal.addSpread spread tables = .ok (slot, next) →
      relation next (met ++ [spread]) (made ++ [⟨slot.name, [], spread.position⟩])

namespace Tracks

variable {relation : Tables → List Spread → List Spread → Prop} (tracks : Tracks relation)
  {tables next : Tables} {met made : List Spread}

include tracks

theorem addDirectives (directives : List Directive) (holds : relation tables met made) :
    relation (Normal.addDirectives tables directives) met made := by
  unfold Normal.addDirectives
  induction directives generalizing tables with
  | nil => exact holds
  | cons directive directives ih => exact ih (tracks.arguments directive.arguments holds)

theorem normalizes {inner normal : List Selection} (holds : relation tables met made)
    (run : Normal.Normalizes tables inner normal next) :
    relation next (met ++ Selection.spreads inner) (made ++ Selection.spreads normal) := by
  induction run generalizing met made with
  | nil tables => simpa only [Selection.spreads, List.append_nil] using holds
  | field below after ofBelow ofAfter =>
    have inside := ofBelow (tracks.addDirectives _ (tracks.arguments _ holds))
    simpa only [Selection.spreads, Selection.spreadsOf, List.append_assoc] using ofAfter inside
  | spread added after ofAfter =>
    simpa only [Selection.spreads, Selection.spreadsOf, List.append_assoc] using
      ofAfter (tracks.spread holds added)
  | inline below after ofBelow ofAfter =>
    have inside := ofBelow (tracks.addDirectives _ holds)
    simpa only [Selection.spreads, Selection.spreadsOf, List.append_assoc] using ofAfter inside

end Tracks

/-- The spreads of a normal form have the slot names that the spreads of the definition
tell. -/
theorem tracks_names : Tracks fun tables met made => tables.Follows met ∧
    made.map (·.name) = (Spread.entries [] met).map (·.1) where
  arguments arguments := by
    rintro ⟨follows, names⟩
    exact ⟨follows.addArguments arguments, names⟩
  spread := by
    rintro tables next met made spread slot ⟨follows, names⟩ added
    obtain ⟨named, followed⟩ := follows.addSpread added
    refine ⟨followed, ?_⟩
    rw [Spread.entries_append, List.map_append, List.map_append, names, List.nil_append]
    simp only [Spread.entries, List.map_cons, List.map_nil, named]

/-- Spreads lose their directives and keep their positions. -/
theorem tracks_bare : Tracks fun _ met made =>
    (∀ spread ∈ made, spread.directives = []) ∧ made.map (·.position) = met.map (·.position) where
  arguments _ holds := holds
  spread := by
    rintro tables next met made spread slot ⟨bare, positions⟩ -
    rw [List.forall_mem_append, List.map_append, List.map_append, positions]
    exact ⟨⟨bare, List.forall_mem_singleton.mpr rfl⟩, rfl⟩

end Tables

namespace Definition

variable {definition : Definition} {form : NormalForm}

/-- A normal form comes of the selections alone; the definition loses directives. -/
theorem exists_of_normalize (normal : definition.normalize = .ok form) :
    ∃ selections tables,
      Normal.Normalizes (Normal.addDirectives .empty
        (Normal.keptOnDefinition definition.directives)) definition.selections selections tables ∧
      form.definition = { definition with
        directives := Normal.keptOnDefinition definition.directives, selections } ∧
      form.slots = tables.slots ∧ form.variableNames = tables.variableNames ∧
      form.argumentDefinitions =
        (definition.directives.filter (·.name = argumentDefinitionsName)).flatMap (·.arguments) := by
  unfold normalize at normal
  dsimp only at normal
  split at normal
  · cases normal
  · obtain ⟨⟨selections, tables⟩, normalized, done⟩ := exists_of_bind_eq_ok normal
    cases done
    exact ⟨selections, tables, Normal.normalizes_of_selections normalized, rfl, rfl, rfl, rfl⟩

/-- What is tracked while a definition is normalized holds of its normal form. -/
theorem tracked_of_normalize {relation : Tables → List Spread → List Spread → Prop}
    (tracks : Tables.Tracks relation) (start : relation .empty [] [])
    (normal : definition.normalize = .ok form) :
    ∃ tables, relation tables (Selection.spreads definition.selections)
      (Selection.spreads form.definition.selections) ∧ form.slots = tables.slots := by
  obtain ⟨selections, tables, run, same, slots, _⟩ := exists_of_normalize normal
  rw [same]
  exact ⟨tables, tracks.normalizes (tracks.addDirectives _ start) run, slots⟩

/-- The slot names of a normal form and what its slots hold are told from the
spreads of the definition. -/
theorem slots_of_normalize (normal : definition.normalize = .ok form) :
    (Selection.spreads form.definition.selections).map (·.name) =
        (Spread.entries [] (Selection.spreads definition.selections)).map (·.1) ∧
      ∀ name, (form.slot? name).map Slot.content =
        ((Spread.entries [] (Selection.spreads definition.selections)).lookup name).map
          Spread.content := by
  obtain ⟨tables, ⟨follows, names⟩, slots⟩ :=
    tracked_of_normalize Tables.tracks_names ⟨Tables.follows_empty, rfl⟩ normal
  refine ⟨names, fun name => ?_⟩
  rw [NormalForm.slot?, slots]
  exact follows.slots name

/-- The spreads of a normal form are bare, each in the place of a spread of the
definition. -/
theorem spreads_of_normalize (normal : definition.normalize = .ok form) :
    (∀ spread ∈ Selection.spreads form.definition.selections, spread.directives = []) ∧
      (Selection.spreads form.definition.selections).map (·.position) =
        (Selection.spreads definition.selections).map (·.position) := by
  obtain ⟨_, holds, _⟩ :=
    tracked_of_normalize Tables.tracks_bare ⟨List.forall_mem_nil _, rfl⟩ normal
  exact holds

end Definition

end QueryTree
