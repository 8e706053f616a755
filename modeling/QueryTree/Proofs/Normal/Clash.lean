import QueryTree.Proofs.Normal.Slots

/-!
# Clashes of slot names

The name of the slot of a spread with arguments is made from the name of its
fragment and a number, and nothing keeps an author from giving that name to a
fragment.  A normal form gives every spread a slot with its own fragment and its
own bindings exactly if no fragment that is spread without arguments has such a
name.
-/

namespace QueryTree

namespace Spread

/-! ## Numbered names -/

/-- The fragment and the number can be read from a numbered name. -/
theorem boundName_inj {left right : String} {leftIndex rightIndex : Nat}
    (equal : boundName left leftIndex = boundName right rightIndex) :
    left = right ∧ leftIndex = rightIndex :=
  Text.numbered_inj rfl (by decide) equal

/-- A fragment that is spread without arguments has the name of the slot of a
spread with arguments. -/
def Clashes (spreads : List Spread) : Prop :=
  ∃ plain ∈ spreads, plain.bindings? = none ∧
    ∃ fragment index, 1 ≤ index ∧ index ≤ boundCount fragment spreads ∧
      plain.name = boundName fragment index

/-- Two spreads may have one slot if they spread one fragment without arguments. -/
def MayShare (left right : Spread) : Prop :=
  left.name = right.name ∧ left.bindings? = none ∧ right.bindings? = none

theorem boundCount_cons (fragment : String) (spread : Spread) (spreads : List Spread) :
    boundCount fragment (spread :: spreads) = boundCount fragment spreads +
      if spread.name = fragment && spread.bindings?.isSome then 1 else 0 :=
  List.countP_cons

variable {earlier spreads : List Spread}

/-- A number up to the count of the bound spreads of a fragment has been given to
one of them. -/
theorem exists_numbered {fragment : String} {index : Nat}
    (later : boundCount fragment earlier < index)
    (counted : index ≤ boundCount fragment (earlier ++ spreads)) :
    ∃ spread, (boundName fragment index, spread) ∈ entries earlier spreads ∧
      spread.bindings?.isSome = true := by
  induction spreads generalizing earlier with
  | nil =>
    rw [List.append_nil] at counted
    omega
  | cons spread spreads ih =>
    have total : boundCount fragment (earlier ++ [spread]) = boundCount fragment earlier +
        if spread.name = fragment && spread.bindings?.isSome then 1 else 0 := by
      rw [boundCount_append, boundCount_cons]
      simp [boundCount]
    by_cases here : boundCount fragment (earlier ++ [spread]) < index
    · obtain ⟨numbered, member, bound⟩ := ih here (by simpa using counted)
      exact ⟨numbered, List.mem_cons_of_mem _ member, bound⟩
    · split at total
      case isFalse => omega
      case isTrue bound =>
          simp only [Bool.and_eq_true, decide_eq_true_eq] at bound
          obtain ⟨rfl, bound⟩ := bound
          have isIndex : index = boundCount spread.name earlier + 1 := by omega
          obtain ⟨arguments, bindings⟩ := Option.isSome_iff_exists.mp bound
          refine ⟨spread, ?_, bound⟩
          rw [entries, slotName, bindings, isIndex]
          exact List.mem_cons_self

/-- Without a clash a slot name is given twice only to spreads that may share a
slot. -/
theorem mayShare_of_slotName_eq {between after : List Spread} {left right : Spread}
    (apart : ¬ Clashes (earlier ++ left :: (between ++ right :: after)))
    (equal : slotName earlier left = slotName (earlier ++ left :: between) right) :
    left.MayShare right := by
  have leftMember : left ∈ earlier ++ left :: (between ++ right :: after) := by simp
  have rightMember : right ∈ earlier ++ left :: (between ++ right :: after) := by simp
  unfold slotName at equal
  cases leftBound : left.bindings? with
  | none =>
    rw [leftBound] at equal
    cases rightBound : right.bindings? with
    | none =>
      rw [rightBound] at equal
      exact ⟨equal, leftBound, rightBound⟩
    | some arguments =>
      rw [rightBound] at equal
      refine (apart ⟨left, leftMember, leftBound, _, _, ?_, ?_, equal⟩).elim
      · omega
      · simp only [boundCount_append, boundCount_cons, rightBound, Option.isSome_some,
          Bool.and_true, decide_true, if_true]
        omega
  | some arguments =>
    rw [leftBound] at equal
    cases rightBound : right.bindings? with
    | none =>
      rw [rightBound] at equal
      refine (apart ⟨right, rightMember, rightBound, _, _, ?_, ?_, equal.symm⟩).elim
      · omega
      · simp [boundCount_append, boundCount_cons, leftBound]
    | some others =>
      rw [rightBound] at equal
      obtain ⟨sameName, sameIndex⟩ := boundName_inj equal
      simp [boundCount_append, boundCount_cons, leftBound, sameName] at sameIndex

/-- The entries of a list are those of its parts. -/
theorem mem_entries {entry : String × Spread} (member : entry ∈ entries earlier spreads) :
    ∃ before after, spreads = before ++ entry.2 :: after ∧
      entry.1 = slotName (earlier ++ before) entry.2 := by
  induction spreads generalizing earlier with
  | nil => cases member
  | cons first spreads ih =>
    rcases List.mem_cons.mp member with rfl | member
    · exact ⟨[], spreads, rfl, by rw [List.append_nil]⟩
    · obtain ⟨before, after, split, named⟩ := ih member
      refine ⟨first :: before, after, congrArg (first :: ·) split, ?_⟩
      rw [named, List.append_assoc]
      rfl

/-- Without a clash spreads with one slot name may share the slot. -/
theorem pairwise_mayShare (apart : ¬ Clashes (earlier ++ spreads)) :
    (entries earlier spreads).Pairwise fun left right =>
      left.1 = right.1 → left.2.MayShare right.2 := by
  induction spreads generalizing earlier with
  | nil => exact .nil
  | cons first spreads ih =>
    refine .cons (fun entry member equal => ?_) (ih (by rwa [List.append_assoc]))
    obtain ⟨between, after, rfl, named⟩ := mem_entries member
    rw [named, List.append_assoc] at equal
    exact mayShare_of_slotName_eq apart equal

/-- If spreads with one slot name may share the slot, every spread finds itself
under its slot name. -/
theorem lookup_entries {named : List (String × Spread)}
    (apart : named.Pairwise fun left right => left.1 = right.1 → left.2.MayShare right.2) :
    ∀ entry ∈ named, (named.lookup entry.1).map content = some entry.2.content := by
  induction named with
  | nil =>
    intro entry member
    cases member
  | cons first named ih =>
    intro entry member
    rw [List.lookup_cons]
    by_cases same : entry.1 = first.1
    · rw [same, beq_self_eq_true]
      rcases List.mem_cons.mp member with rfl | member
      · rfl
      · obtain ⟨sameName, firstPlain, plain⟩ := List.rel_of_pairwise_cons apart member same.symm
        simp only [Option.map_some, content, sameName, firstPlain, plain]
    · rw [beq_eq_false_iff_ne.mpr same]
      rcases List.mem_cons.mp member with rfl | member
      · exact absurd rfl same
      · exact ih (List.Pairwise.of_cons apart) entry member

/-- A clash leaves a spread without its own slot. -/
theorem not_clashes_of_lookup (found : ∀ entry ∈ entries [] spreads,
      ((entries [] spreads).lookup entry.1).map content = some entry.2.content) :
    ¬ Clashes spreads := by
  rintro ⟨plain, member, unbound, fragment, index, positive, counted, named⟩
  obtain ⟨bound, numbered, isBound⟩ :=
    exists_numbered (show boundCount fragment [] < index from positive) counted
  have plainMember : (plain.name, plain) ∈ entries [] spreads := by
    rw [← entries_spreads [] spreads] at member
    obtain ⟨⟨name, spread⟩, entry, rfl⟩ := List.mem_map.mp member
    obtain ⟨before, after, -, isName⟩ := mem_entries entry
    simp only [slotName, unbound] at isName
    rwa [← isName]
  have ofPlain := found _ plainMember
  have ofBound := found _ numbered
  rw [named] at ofPlain
  have same := ofPlain.symm.trans ofBound
  simp only [content, Option.some.injEq, Prod.mk.injEq] at same
  rw [← same.2, unbound] at isBound
  cases isBound

end Spread

/-! ## Normal forms -/

/-- The slot of a renamed spread holds the fragment and the bindings of the spread
as it was written. -/
def NormalForm.Fills (form : NormalForm) (written renamed : Spread) : Prop :=
  ∃ slot, form.slot? renamed.name = some slot ∧ slot.fragment = written.name ∧
    slot.arguments = written.bindings?

theorem NormalForm.fills_iff (form : NormalForm) (written renamed : Spread) :
    form.Fills written renamed ↔
      (form.slot? renamed.name).map Slot.content = some written.content := by
  constructor
  · rintro ⟨slot, found, fragment, arguments⟩
    rw [found, Option.map_some, Slot.content, fragment, arguments]
    rfl
  · intro held
    obtain ⟨slot, found, content⟩ := Option.map_eq_some_iff.mp held
    exact ⟨slot, found, congrArg Prod.fst content, congrArg Prod.snd content⟩

namespace Definition

/-- The spreads of a definition as they are written, each with the one that stands
for it in a normal form. -/
def spreadPairs (definition : Definition) (form : NormalForm) : List (Spread × Spread) :=
  (Selection.spreads definition.selections).zip (Selection.spreads form.definition.selections)

variable {definition : Definition} {form : NormalForm}

theorem length_spreads_normalize (normal : definition.normalize = .ok form) :
    (Selection.spreads form.definition.selections).length =
      (Selection.spreads definition.selections).length := by
  have names := congrArg List.length (slots_of_normalize normal).1
  have spreads := congrArg List.length
    (Spread.entries_spreads [] (Selection.spreads definition.selections))
  rw [List.length_map, List.length_map] at names
  rw [List.length_map] at spreads
  exact names.trans spreads

theorem spreadPairs_entries (normal : definition.normalize = .ok form) :
    ((definition.spreadPairs form).map fun pair => (pair.2.name, pair.1)) =
      Spread.entries [] (Selection.spreads definition.selections) := by
  have same := length_spreads_normalize normal
  have isEntries := List.zip_of_prod (slots_of_normalize normal).1.symm
    (Spread.entries_spreads [] (Selection.spreads definition.selections))
  rw [isEntries]
  apply List.zip_of_prod
  · rw [List.map_map]
    change (definition.spreadPairs form).map ((·.name) ∘ Prod.snd) = _
    rw [← List.map_map, spreadPairs, List.map_snd_zip (Nat.le_of_eq same)]
  · rw [List.map_map]
    exact List.map_fst_zip (Nat.le_of_eq same.symm)

/-- Every spread of a definition has a slot with its own fragment and its own
bindings, and shares it only with spreads of the same fragment without arguments,
exactly if no fragment that is spread without arguments has the name of the slot
of a spread with arguments. -/
theorem normalize_fills_iff {definition : Definition} {form : NormalForm}
    (normal : definition.normalize = .ok form) :
    (Selection.spreads form.definition.selections).length =
        (Selection.spreads definition.selections).length ∧
      ((∀ pair ∈ definition.spreadPairs form, form.Fills pair.1 pair.2) ∧
          ((definition.spreadPairs form).Pairwise fun left right =>
            left.2.name = right.2.name → left.1.MayShare right.1) ↔
        ¬ Spread.Clashes (Selection.spreads definition.selections)) := by
  refine ⟨length_spreads_normalize normal, ?_⟩
  have isEntries := spreadPairs_entries normal
  have held (pair : Spread × Spread) : form.Fills pair.1 pair.2 ↔
      ((Spread.entries [] (Selection.spreads definition.selections)).lookup pair.2.name).map
        Spread.content = some pair.1.content := by
    rw [form.fills_iff, (slots_of_normalize normal).2]
  constructor
  · rintro ⟨filled, -⟩
    apply Spread.not_clashes_of_lookup
    intro entry member
    rw [← isEntries] at member
    obtain ⟨pair, isPair, rfl⟩ := List.mem_map.mp member
    exact (held pair).mp (filled pair isPair)
  · intro apart
    have shared : (Spread.entries [] (Selection.spreads definition.selections)).Pairwise
        fun left right => left.1 = right.1 → left.2.MayShare right.2 :=
      Spread.pairwise_mayShare apart
    refine ⟨fun pair isPair => ?_, ?_⟩
    · refine (held pair).mpr (Spread.lookup_entries shared (pair.2.name, pair.1) ?_)
      rw [← isEntries]
      exact List.mem_map.mpr ⟨pair, isPair, rfl⟩
    · rw [← isEntries, List.pairwise_map] at shared
      exact shared

/-- A fragment with given selections. -/
def sampleFragment (selections : List Selection) : Definition :=
  ⟨.fragment, "Card", "User", [], [], selections, .unknown⟩

/-- A spread with one argument for its fragment. -/
def sampleBound (fragment raw : String) : Selection :=
  .spread ⟨fragment, [⟨argumentsName, [⟨"size", .int raw .unknown, .unknown⟩], .unknown⟩], .unknown⟩

/-- Two spreads of a fragment with arguments, and two without. -/
def numberedFragment : Definition :=
  sampleFragment [.spread ⟨"Photo", [], .unknown⟩, sampleBound "Photo" "1",
    .field ⟨none, "friend", [], [], .unknown⟩
      [.spread ⟨"Photo", [], .unknown⟩, sampleBound "Photo" "2"]]

theorem numberedFragment_fills : ∃ form, numberedFragment.normalize = .ok form ∧
    (Selection.spreads form.definition.selections).length =
        (Selection.spreads numberedFragment.selections).length ∧
      ((∀ pair ∈ numberedFragment.spreadPairs form, form.Fills pair.1 pair.2) ∧
          ((numberedFragment.spreadPairs form).Pairwise fun left right =>
            left.2.name = right.2.name → left.1.MayShare right.1) ↔
        ¬ Spread.Clashes (Selection.spreads numberedFragment.selections)) := by
  have accepted : numberedFragment.normalize.toOption.isSome = true := by decide +kernel
  cases normal : numberedFragment.normalize with
  | error found =>
    rw [normal] at accepted
    cases accepted
  | ok form => exact ⟨form, rfl, normalize_fills_iff normal⟩

/-- A fragment `Photo_args1` beside the first spread of `Photo` with arguments. -/
def clashingFragment : Definition :=
  sampleFragment [.spread ⟨"Photo_args1", [], .unknown⟩, sampleBound "Photo" "1"]

/-- The normal form of that fragment. -/
def clashingForm : NormalForm where
  definition := sampleFragment
    [.spread ⟨"Photo_args1", [], .unknown⟩, .spread ⟨"Photo_args1", [], .unknown⟩]
  slots := [⟨"Photo_args1", "Photo_args1", none, true, .unknown⟩]
  variableNames := []
  argumentDefinitions := []

/-- The spread of `Photo` gets the slot of the other fragment and loses its
bindings. -/
theorem clashingFragment_not_fills : clashingFragment.normalize = .ok clashingForm ∧
    ∃ pair ∈ clashingFragment.spreadPairs clashingForm, ¬ clashingForm.Fills pair.1 pair.2 := by
  refine ⟨rfl, _, List.mem_of_getElem? (i := 1) rfl, ?_⟩
  rintro ⟨slot, found, fragment, -⟩
  cases found
  revert fragment
  decide

end Definition

end QueryTree
