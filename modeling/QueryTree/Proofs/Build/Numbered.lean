import Mathlib.Data.List.Nodup
import Mathlib.Data.List.Perm.Basic
import QueryTree.Proofs.Build.Validated
import QueryTree.Proofs.Compile.Cache

/-!
# Fragments are numbered

The fragments of a tree have the numbers from one up to their count, each of them
once, in the order in which they were begun.  The id of a fragment is the digest of
its number behind the name of the definition, so that two fragments of one tree or of
the trees of definitions with different names have different ids unless two such
texts have the same digest.
-/

namespace QueryTree

/-! ## Ids in a tree -/

namespace Child

mutual

/-- The ids of the fragments of a tree. -/
def fragmentIds : Child → List String
  | .field _ _ children => fragmentIdsOf children
  | .fragment head _ children => head.id :: fragmentIdsOf children
  | .reference _ => []

/-- The ids of the fragments of trees. -/
def fragmentIdsOf : List Child → List String
  | [] => []
  | child :: children => fragmentIds child ++ fragmentIdsOf children

end

@[simp] theorem fragmentIdsOf_append (children others : List Child) :
    fragmentIdsOf (children ++ others) = fragmentIdsOf children ++ fragmentIdsOf others := by
  induction children with
  | nil => rw [fragmentIdsOf, List.nil_append, List.nil_append]
  | cons child children ih =>
    rw [List.cons_append, fragmentIdsOf, fragmentIdsOf, ih, List.append_assoc]

end Child

/-- The ids of the fragments of a selection array. -/
def Children.fragmentIds (children : Children) : List String := Child.fragmentIdsOf children.items

/-- The ids of all fragments of the tree of a definition. -/
def Root.fragmentIds : Root → List String
  | .query _ children => children.fragmentIds
  | .mutation _ children => children.fragmentIds
  | .subscription _ children => children.fragmentIds
  | .fragment head children => head.id :: children.fragmentIds
  | .createFragment head children _ => head.id :: children.fragmentIds

/-! ## Numbers that are taken -/

/-- The text that the id of a fragment is the digest of. -/
def FragmentNode.idText (name : String) (number : Nat) : String := name ++ ":" ++ toString number

/-- The ids of the next fragments after a count. -/
def FragmentNode.idsAfter (name : String) (count taken : Nat) : List String :=
  (List.range' (count + 1) taken).map fun number => Text.digestText (idText name number)

namespace Build

open FragmentNode (idsAfter idText)

variable {α β : Type} {name : String} {given : List String} {ids : α → List String}

theorem idsAfter_append (name : String) (count taken more : Nat) :
    idsAfter name count taken ++ idsAfter name (count + taken) more =
      idsAfter name count (taken + more) := by
  rw [idsAfter, idsAfter, ← List.map_append, Nat.add_right_comm, List.range'_append_1, idsAfter]

/-- Whether a build takes the next numbers, each for one fragment in what it returns; the
other fragments there have ids that were given before. -/
def Numbers (name : String) (given : List String) (ids : α → List String) (build : Build α) :
    Prop :=
  ∀ before value after, build before = .ok (value, after) →
    ∃ taken, after = before + taken ∧ (ids value).Perm (given ++ idsAfter name before taken)

namespace Numbers

theorem pure {value : α} (same : (ids value).Perm given) :
    Numbers name given ids (Pure.pure value) := by
  intro before _ after returned
  cases returned
  refine ⟨0, rfl, ?_⟩
  simpa [idsAfter] using same

theorem throw (error : BuildError) :
    Numbers name given ids (MonadExcept.throw error : Build α) := by
  intro before value after returned
  cases returned

/-- The ids in what a step returns are given to what comes after it. -/
theorem bind {found : β → List String} {first : Build β} {next : β → Build α}
    (ofFirst : Numbers name [] found first)
    (ofNext : ∀ value, Numbers name (given ++ found value) ids (next value)) :
    Numbers name given ids (first >>= next) := by
  intro before result last returned
  obtain ⟨⟨value, between⟩, isFirst, isNext⟩ := exists_of_bind_eq_ok returned
  obtain ⟨taken, rfl, inFirst⟩ := ofFirst before value between isFirst
  obtain ⟨more, rfl, inNext⟩ := ofNext value _ result last isNext
  refine ⟨taken + more, Nat.add_assoc .., ?_⟩
  rw [← idsAfter_append, ← List.append_assoc]
  exact inNext.trans ((inFirst.append_left given).append_right _)

/-- A step without fragments takes no number. -/
theorem lift (result : Except Diagnostic α) :
    Numbers name [] (fun _ => []) (Build.lift result) := by
  cases result with
  | error found => exact throw _
  | ok value => exact pure (.refl _)

theorem ite {condition : Prop} [Decidable condition] {left right : Build α}
    (ofLeft : Numbers name given ids left) (ofRight : Numbers name given ids right) :
    Numbers name given ids (if condition then left else right) := by
  split
  · exact ofLeft
  · exact ofRight

theorem mapM {build : β → Build Child} {values : List β}
    (each : ∀ value ∈ values, Numbers name [] Child.fragmentIds (build value)) :
    Numbers name [] Child.fragmentIdsOf (values.mapM build) := by
  induction values with
  | nil =>
    rw [List.mapM_nil]
    exact pure (.refl _)
  | cons value values ih =>
    rw [List.mapM_cons]
    refine bind (each value List.mem_cons_self) fun first =>
      bind (ih (List.forall_mem_cons.mp each).2) fun others => ?_
    exact pure (by simp [Child.fragmentIdsOf])

end Numbers

/-! ## Nodes -/

variable {context : Context}

theorem fragmentId_numbers : Numbers context.name [] (fun id => [id]) (fragmentId context) := by
  intro before value after returned
  cases returned
  exact ⟨1, rfl, .refl _⟩

theorem arrayOf_fragmentIds (flattened : Bool) (fields fragments : List Child) :
    (arrayOf flattened fields fragments).fragmentIds =
      Child.fragmentIdsOf fields ++ Child.fragmentIdsOf fragments := by
  rw [Children.fragmentIds, arrayOf_items, Child.fragmentIdsOf_append]

variable {head : Field} {parent type : SchemaType} {selections : List Selection}
variable {below : Build Children} {directives : List Directive}

theorem field_numbers {origin : Origin} {below : SchemaField → Build Children}
    (inside : ∀ declared, Numbers context.name [] Children.fragmentIds (below declared)) :
    Numbers context.name [] Child.fragmentIds
      (field context parent head selections origin below) := by
  have made (declared : SchemaField) : Numbers context.name [] Child.fragmentIds
      (fieldNode context head origin declared (below declared)) := by
    refine (inside declared).bind fun children => (Numbers.lift _).bind fun _ =>
      (Numbers.lift _).bind fun _ => (Numbers.lift _).bind fun _ => .pure ?_
    simp [Child.fragmentIds, Children.fragmentIds]
  unfold field
  split
  next => exact .throw _
  next declared _ => exact .ite ((Numbers.lift _).bind fun _ => made declared) (made declared)

theorem fragment_numbers (inside : Numbers context.name [] Children.fragmentIds below) :
    Numbers context.name [] (fun result => result.1.id :: result.2.fragmentIds)
      (fragment context type directives below) := by
  refine fragmentId_numbers.bind fun id => inside.bind fun children =>
    (Numbers.lift _).bind fun _ => (Numbers.lift _).bind fun _ => .pure ?_
  simp

theorem innerFragment_numbers (inside : Numbers context.name [] Children.fragmentIds below) :
    Numbers context.name [] Child.fragmentIds (innerFragment context type directives below) := by
  refine (fragment_numbers inside).bind fun result => .pure ?_
  simp [Child.fragmentIds, Children.fragmentIds]

/-! ## Generated nodes -/

/-- Whether every generated field takes its numbers. -/
def Generator.Numbers (context : Context) (generate : Generator) : Prop :=
  ∀ parent name origin,
    Build.Numbers context.name [] Child.fragmentIds (generate parent name origin)

theorem nodeFragments_numbers {generate : Generator} (generates : generate.Numbers context)
    (requisites : Requisites) :
    Numbers context.name [] Child.fragmentIdsOf (nodeFragments context generate requisites) := by
  unfold nodeFragments
  split
  next => exact .pure (.refl _)
  next node _ =>
    refine (innerFragment_numbers ?_).bind fun child => .pure (by simp [Child.fragmentIdsOf])
    refine (generates _ _ _).bind fun selected =>
      (Numbers.mapM fun _ _ => generates _ _ _).bind fun others => .pure ?_
    simp [arrayOf_fragmentIds, Child.fragmentIdsOf]

theorem requisiteField_numbers (depth : Nat) :
    Generator.Numbers context (requisiteField context depth) := by
  induction depth with
  | zero => exact fun _ _ _ => .throw _
  | succ depth ih =>
    intro parent name origin
    rw [requisiteField]
    refine field_numbers fun declared => (nodeFragments_numbers ih _).bind fun fragments =>
      (Numbers.mapM fun _ _ => ih _ _ _).bind fun fields => .pure ?_
    rw [arrayOf_fragmentIds]
    exact List.perm_append_comm

/-! ## Selection sets -/

theorem fragmentBuild_numbers {selection : Selection}
    (inside : ∀ type requisites, Numbers context.name [] Children.fragmentIds
      (children context type requisites selection.inner)) :
    Numbers context.name [] Child.fragmentIds (fragmentBuild context parent selection) := by
  cases selection with
  | field => exact .throw _
  | spread head =>
    change Numbers _ _ _ (reference head)
    unfold reference
    split
    · exact .pure (by simp [Child.fragmentIds])
    · exact .throw _
  | inline head inner =>
    have chosen : Numbers context.name [] (fun _ => []) (conditionType context parent head) := by
      intro before type after returned
      obtain ⟨_, rfl⟩ := (conditionType_eq_ok_iff inner).mp returned
      exact ⟨0, rfl, .refl _⟩
    exact chosen.bind fun type => innerFragment_numbers (inside type _)

/-- Fragments are begun before the fields that stand in front of them in the array. -/
theorem children_numbers {requisites : Requisites} :
    Numbers context.name [] Children.fragmentIds (children context type requisites selections) := by
  have generates : Generator.Numbers context (generator context) := requisiteField_numbers _
  induction selections using Selection.setInduction generalizing type requisites with
  | step selections ih =>
    rw [children_eq]
    refine Numbers.bind (.mapM ?_) fun written => (nodeFragments_numbers generates _).bind
      fun generated => Numbers.bind (.mapM ?_) fun selected =>
        (Numbers.mapM fun _ _ => generates _ _ _).bind fun others => .pure ?_
    · intro selection member
      exact fragmentBuild_numbers fun type requisites =>
        ih _ (Selection.mem_of_mem_fragments member).1
    · exact fun selected member => field_numbers fun declared =>
        ih _ (Selection.mem_fields.mp member)
    · rw [arrayOf_fragmentIds, Child.fragmentIdsOf_append, Child.fragmentIdsOf_append,
        List.nil_append, List.append_assoc (_ ++ _)]
      exact List.perm_append_comm

/-! ## Definitions -/

variable {inputArgument : String} {definition : Definition}

theorem rootType_numbers {type : Option SchemaType} :
    Numbers context.name [] (fun _ => []) (rootType type definition) := by
  unfold rootType
  split
  · exact .pure (.refl _)
  · exact .throw _

theorem rootField_numbers :
    Numbers context.name [] (fun _ => []) (rootField context definition) := by
  have counts : Numbers context.name [] (fun _ => []) (lift (Rule.rootFieldCount definition)) :=
    .lift _
  unfold rootField
  split
  next =>
    exact .ite (counts.bind fun _ => .throw _) (.throw _)
  next =>
    exact .ite (counts.bind fun _ => .pure (.refl _)) (.pure (.refl _))

theorem declaredRootField_numbers :
    Numbers context.name [] (fun _ => []) (declaredRootField context type head) := by
  unfold declaredRootField
  split
  · exact .pure (.refl _)
  · exact .throw _

theorem query_numbers : Numbers context.name [] Root.fragmentIds (query context definition) := by
  refine rootType_numbers.bind fun type => rootField_numbers.bind fun selected =>
    declaredRootField_numbers.bind fun declared => (Numbers.lift _).bind fun _ =>
      children_numbers.bind fun children => (Numbers.lift _).bind fun _ =>
        (Numbers.lift _).bind fun _ => .pure ?_
  simp [Root.fragmentIds]

theorem operation_numbers {clientId : String} :
    Numbers context.name [] (fun result => result.2.fragmentIds)
      (operation context inputArgument type clientId definition) := by
  refine rootField_numbers.bind fun selected => declaredRootField_numbers.bind fun declared =>
    (Numbers.lift _).bind fun _ => children_numbers.bind fun children =>
      (Numbers.lift _).bind fun _ => .pure ?_
  simp

theorem fragmentRoot_numbers :
    Numbers context.name [] Root.fragmentIds (fragmentRoot context definition) := by
  unfold fragmentRoot
  split
  next => exact .throw _
  next type _ =>
    refine (Numbers.lift _).bind fun listed => ?_
    -- The context of the fragment has the name of the definition.
    have inside : Numbers (fragmentContext context definition listed).name [] _
        (fragment (fragmentContext context definition listed) type definition.directives
          (children (fragmentContext context definition listed) type
            (context.schema.requisites type definition.selections) definition.selections)) :=
      fragment_numbers children_numbers
    refine inside.bind fun result => ?_
    cases listed with
    | none | some parameters => exact .pure (by simp [Root.fragmentIds])

theorem root_numbers :
    Numbers context.name [] Root.fragmentIds (root context inputArgument definition) := by
  unfold root
  split
  next => exact query_numbers
  next =>
    exact rootType_numbers.bind fun type => operation_numbers.bind fun result =>
      .pure (by simp [Root.fragmentIds])
  next =>
    exact rootType_numbers.bind fun type => operation_numbers.bind fun result =>
      .pure (by simp [Root.fragmentIds])
  next => exact fragmentRoot_numbers
  next => exact .throw _

end Build

/-! ## Different ids -/

/-- The digest can be read from its digits. -/
theorem Text.digest_eq_of_digestText_eq {left right : String}
    (equal : digestText left = digestText right) : digest left = digest right := by
  have digits : hexMinimal (digest left) = hexMinimal (digest right) := String.ofList_inj.mp equal
  have same := congrArg hexNumber? digits
  rw [hexNumber?_hexMinimal, hexNumber?_hexMinimal] at same
  exact UInt64.toNat_inj.mp (Option.some.inj same)

variable {name : String}

/-- The name and the number can be read from the text of an id. -/
theorem FragmentNode.idText_inj {other : String} {number otherNumber : Nat}
    (equal : idText name number = idText other otherNumber) : name = other ∧ number = otherNumber :=
  Text.numbered_inj rfl (by decide) equal

/-- The ids of the tree of a definition are made from its name and the numbers from one up
to their count, each used once. -/
def Root.Numbered (name : String) (root : Root) : Prop :=
  ∃ numbers : List Nat, numbers.Perm (List.range' 1 root.fragmentIds.length) ∧
    root.fragmentIds =
      numbers.map fun number => Text.digestText (FragmentNode.idText name number)

/-- The texts that the ids of a tree are the digests of. -/
def Root.Hashes (name : String) (root : Root) (text : String) : Prop :=
  ∃ number, 1 ≤ number ∧ number ≤ root.fragmentIds.length ∧
    text = FragmentNode.idText name number

namespace Root.Numbered

variable {name other : String} {root otherRoot : Root} (numbered : root.Numbered name)

include numbered

theorem exists_hashed {id : String} (member : id ∈ root.fragmentIds) :
    ∃ text, root.Hashes name text ∧ Text.digestText text = id := by
  obtain ⟨numbers, uses, areIds⟩ := numbered
  rw [areIds] at member
  obtain ⟨number, used, isId⟩ := List.mem_map.mp member
  obtain ⟨atLeast, atMost⟩ := List.mem_range'_1.mp (uses.mem_iff.mp used)
  exact ⟨_, ⟨number, atLeast, by omega, rfl⟩, isId⟩

theorem nodup (distinct : NoCollision (root.Hashes name)) : root.fragmentIds.Nodup := by
  obtain ⟨numbers, uses, areIds⟩ := numbered
  have hashed {number : Nat} (used : number ∈ numbers) :
      root.Hashes name (FragmentNode.idText name number) := by
    obtain ⟨atLeast, atMost⟩ := List.mem_range'_1.mp (uses.mem_iff.mp used)
    exact ⟨number, atLeast, by omega, rfl⟩
  have once : numbers.Nodup := uses.nodup_iff.mpr List.nodup_range'
  rw [areIds]
  refine once.map_on fun left isLeft right isRight equal => ?_
  have sameText := distinct _ _ (hashed isLeft) (hashed isRight)
    (Text.digest_eq_of_digestText_eq equal)
  exact (FragmentNode.idText_inj sameText).2

theorem disjoint (others : otherRoot.Numbered other) (apart : name ≠ other)
    (distinct : NoCollision fun text => root.Hashes name text ∨ otherRoot.Hashes other text) :
    ∀ id ∈ root.fragmentIds, id ∉ otherRoot.fragmentIds := by
  intro id member otherMember
  obtain ⟨text, hashed, isId⟩ := numbered.exists_hashed member
  obtain ⟨otherText, otherHashed, isOther⟩ := others.exists_hashed otherMember
  have sameText := distinct _ _ (.inl hashed) (.inr otherHashed)
    (Text.digest_eq_of_digestText_eq (isId.trans isOther.symm))
  obtain ⟨number, _, _, isText⟩ := hashed
  obtain ⟨otherNumber, _, _, isOtherText⟩ := otherHashed
  rw [isText, isOtherText] at sameText
  exact apart (FragmentNode.idText_inj sameText).1

end Root.Numbered

namespace Definition

variable {schema : Schema} {options : BuildOptions} {definition : Definition} {root : Root}

theorem numbered_of_build (built : definition.build schema options = .ok root) :
    root.Numbered definition.name := by
  obtain ⟨count, returned⟩ := build_eq_ok_iff.mp built
  obtain ⟨taken, _, same⟩ := Build.root_numbers 0 root count returned
  have length : root.fragmentIds.length = taken := by
    simpa [FragmentNode.idsAfter] using same.length_eq
  obtain ⟨numbers, areIds, uses⟩ : ∃ numbers : List Nat, root.fragmentIds = numbers.map _ ∧
      numbers.Perm _ := (congrFun₂ (List.eq_map_comp_perm _) _ _).mpr same
  exact ⟨numbers, length ▸ uses, areIds⟩

/-- The ids of the fragments of a tree are made from the numbers one up to their count,
each used once.  Unless the texts that are hashed collide, no two fragments of the tree
have the same id, nor do fragments of the trees of definitions with different names. -/
theorem build_fragmentIds (built : definition.build schema options = .ok root) :
    root.Numbered definition.name ∧
    (NoCollision (root.Hashes definition.name) → root.fragmentIds.Nodup) ∧
    ∀ otherSchema otherOptions (other : Definition) otherRoot,
      other.build otherSchema otherOptions = .ok otherRoot → definition.name ≠ other.name →
      (NoCollision fun text => root.Hashes definition.name text ∨
        otherRoot.Hashes other.name text) →
      ∀ id ∈ root.fragmentIds, id ∉ otherRoot.fragmentIds := by
  have numbered := numbered_of_build built
  refine ⟨numbered, numbered.nodup, fun _ _ other otherRoot otherBuilt apart => ?_⟩
  exact numbered.disjoint (numbered_of_build otherBuilt) apart

end Definition

/-! ## The fragments of a feed -/

/-- Texts do not collide if they are among some with different digests. -/
theorem noCollision_of_nodup {known : String → Prop} (texts : List String)
    (listed : ∀ text, known text → text ∈ texts) (apart : (texts.map Text.digest).Nodup) :
    NoCollision known := fun _ _ isLeft isRight equal =>
  List.inj_on_of_nodup_map apart (listed _ isLeft) (listed _ isRight) equal

/-- The texts of the ids of a tree with two fragments. -/
theorem Root.Hashes.mem_two {text : String} {root : Root} (two : root.fragmentIds.length = 2)
    (hashed : root.Hashes name text) :
    text ∈ [FragmentNode.idText name 1, FragmentNode.idText name 2] := by
  obtain ⟨number, atLeast, atMost, rfl⟩ := hashed
  obtain rfl | rfl : number = 1 ∨ number = 2 := by omega
  · exact List.mem_cons_self
  · exact List.mem_cons_of_mem _ List.mem_cons_self

namespace Sample

/-- The query for the feed under another name. -/
def renamedFeedQuery : Definition := { feedQuery with name := "Feed:1" }

end Sample

/-- The fragment on tags and the generated one on nodes have different ids, also from those
of a definition whose name looks like a name with a number. -/
theorem Definition.feedQuery_fragmentIds :
    ∃ root otherRoot, Sample.feedQuery.build Sample.feedSchema (Sample.options false) = .ok root ∧
      Sample.renamedFeedQuery.build Sample.feedSchema (Sample.options false) = .ok otherRoot ∧
      root.fragmentIds.length = 2 ∧ root.Numbered "Feed" ∧ root.fragmentIds.Nodup ∧
      ∀ id ∈ root.fragmentIds, id ∉ otherRoot.fragmentIds := by
  obtain ⟨root, built, two⟩ : ∃ root, Sample.feedQuery.build Sample.feedSchema
      (Sample.options false) = .ok root ∧ root.fragmentIds.length = 2 :=
    exists_of_toOption_map (by decide +kernel)
  obtain ⟨otherRoot, otherBuilt, otherTwo⟩ : ∃ root, Sample.renamedFeedQuery.build
      Sample.feedSchema (Sample.options false) = .ok root ∧ root.fragmentIds.length = 2 :=
    exists_of_toOption_map (by decide +kernel)
  obtain ⟨numbered, nodup, disjoint⟩ := Definition.build_fragmentIds built
  refine ⟨root, otherRoot, built, otherBuilt, two, numbered, nodup ?_,
    disjoint _ _ _ otherRoot otherBuilt (by decide) ?_⟩
  · exact noCollision_of_nodup _ (fun text hashed => hashed.mem_two two) (by decide +kernel)
  · refine noCollision_of_nodup ([FragmentNode.idText "Feed" 1, FragmentNode.idText "Feed" 2] ++
      [FragmentNode.idText "Feed:1" 1, FragmentNode.idText "Feed:1" 2]) ?_ (by decide +kernel)
    rintro text (hashed | hashed)
    · exact List.mem_append_left _ (hashed.mem_two two)
    · exact List.mem_append_right _ (hashed.mem_two otherTwo)

end QueryTree
