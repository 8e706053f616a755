/-!
# Texts that show where they end

A word ends where a character follows that cannot continue it.  A list of texts
with a separator between them ends at its closing character, provided that no
text begins with that character and that every text shows where it ends.
-/

namespace QueryTree.Text

variable {α β : Type}

/-- The text after a word does not continue it. -/
def Ends (test : Char → Bool) (rest : List Char) : Prop :=
  ∀ first ∈ rest.head?, test first = false

variable {first : Char} {test : Char → Bool} {rest others : List Char}

theorem ends_cons (rest : List Char) (other : test first = false) : Ends test (first :: rest) := by
  intro found member
  cases member
  exact other

theorem Ends.weaken {other : Char → Bool} (ends : Ends test rest)
    (fewer : ∀ character, test character = false → other character = false) : Ends other rest :=
  fun first member => fewer first (ends first member)

/-- Whether a text can take the place of another one behind a word: it begins in the same way,
or with nothing that could continue a word. -/
def Follows (test : Char → Bool) (rest other : List Char) : Prop :=
  other.head? = rest.head? ∨ Ends test other

namespace Follows

variable {test : Char → Bool} {rest other : List Char}

theorem refl (test : Char → Bool) (rest : List Char) : Follows test rest rest := .inl rfl

variable (follows : Follows test rest other)

include follows

theorem append (word : List Char) : Follows test (word ++ rest) (word ++ other) := by
  cases word with
  | nil => exact follows
  | cons first word => exact .inl rfl

variable {fewer : Char → Bool}

/-- What ends a word is replaced by something that ends it, too. -/
theorem ends (weaker : ∀ character, test character = false → fewer character = false)
    (ends : Ends fewer rest) : Ends fewer other := by
  rcases follows with same | otherEnds
  · intro first member
    rw [same] at member
    exact ends first member
  · exact otherEnds.weaken weaker

theorem weaken (weaker : ∀ character, test character = false → fewer character = false) :
    Follows fewer rest other :=
  follows.imp id fun ends => ends.weaken weaker

end Follows

theorem takeWhile_of_ends (ends : Ends test rest) : rest.takeWhile test = [] := by
  cases rest with
  | nil => rfl
  | cons first rest =>
    have other := ends first rfl
    simp [other]

/-- Two words that are continued by other text are the same if the whole is. -/
theorem word_append_inj {left right : List Char} (leftWord : left.all test = true)
    (rightWord : right.all test = true) (leftEnds : Ends test rest) (rightEnds : Ends test others)
    (equal : left ++ rest = right ++ others) : left = right ∧ rest = others := by
  have leftTaken : (left ++ rest).takeWhile test = left := by
    rw [List.takeWhile_append_of_pos (List.all_eq_true.mp leftWord), takeWhile_of_ends leftEnds,
      List.append_nil]
  have rightTaken : (right ++ others).takeWhile test = right := by
    rw [List.takeWhile_append_of_pos (List.all_eq_true.mp rightWord),
      takeWhile_of_ends rightEnds, List.append_nil]
  have same : left = right := by rw [← leftTaken, equal, rightTaken]
  subst same
  exact ⟨rfl, List.append_cancel_left equal⟩

/-- What stands before a number and the number can be read from a text, if the mark
between them is known and does not end in a digit. -/
theorem numbered_inj {mark left right : String} {leftNumber rightNumber : Nat} {last : Char}
    (marked : mark.toList.reverse = last :: others) (apart : last.isDigit = false)
    (equal : left ++ mark ++ toString leftNumber = right ++ mark ++ toString rightNumber) :
    left = right ∧ leftNumber = rightNumber := by
  -- Read from its end, the text begins with the digits of the number.
  have reversed (front : String) (number : Nat) :
      (front ++ mark ++ toString number).toList.reverse =
        (Nat.toDigits 10 number).reverse ++ (mark.toList.reverse ++ front.toList.reverse) := by
    simp only [String.toList_append, List.reverse_append]
    rw [show (toString number).toList = Nat.toDigits 10 number from Nat.toList_repr]
  have digits (number : Nat) : (Nat.toDigits 10 number).reverse.all Char.isDigit = true := by
    rw [List.all_reverse, List.all_eq_true]
    intro digit member
    exact Nat.isDigit_of_mem_toDigits (by decide) (by decide) member
  have ends (front : String) :
      Ends Char.isDigit (mark.toList.reverse ++ front.toList.reverse) := by
    rw [marked]
    exact ends_cons _ apart
  have characters := congrArg (fun text => text.toList.reverse) equal
  simp only [reversed] at characters
  obtain ⟨sameDigits, sameFront⟩ := word_append_inj (digits leftNumber) (digits rightNumber)
    (ends left) (ends right) characters
  constructor
  · exact String.toList_inj.mp (List.reverse_inj.mp (List.append_cancel_left sameFront))
  · have same := congrArg (Nat.ofDigitChars 10 · 0) (List.reverse_inj.mp sameDigits)
    simp only [Nat.ofDigitChars_toDigits (b := 10) (by decide) (by decide)] at same
    exact same

/-- How the items of a list are written so that the list can be read back: what
may follow an item, which includes a separator with a further item and the closing
character. -/
structure Separated (text : α → List Char) (good : α → Prop) (separator : List Char)
    (close : Char) (follows : List Char → Prop) : Prop where
  closes : ∀ rest, follows (close :: rest)
  continues : ∀ item, good item → ∀ rest, follows (separator ++ (text item ++ rest))
  opens : ∀ item, good item → ∀ rest others, text item ++ rest ≠ close :: others
  separates : ∀ rest others, separator ++ rest ≠ close :: others

/-- Items that are written one after the other, with a separator between them. -/
theorem toList_eq_intercalate (join : List α → String) (text : α → String)
    (separator : String) (none : join [] = "") (one : ∀ item, join [item] = text item)
    (more : ∀ item next items,
      join (item :: next :: items) = text item ++ separator ++ join (next :: items))
    (items : List α) : (join items).toList =
      separator.toList.intercalate (items.map fun item => (text item).toList) := by
  induction items with
  | nil =>
    rw [none]
    rfl
  | cons item items ih =>
    cases items with
    | nil => simp [one]
    | cons next items =>
      rw [more, String.toList_append, String.toList_append, ih]
      simp

/-- The first item of a list and what follows it. -/
theorem intercalate_cons_append (separator first rest : List Char) (texts : List (List Char)) :
    separator.intercalate (first :: texts) ++ rest =
      first ++ if texts.isEmpty then rest else separator ++ (separator.intercalate texts ++ rest) := by
  cases texts with
  | nil => simp
  | cons second texts => simp

/-- A separated list is determined by what is written, and so is the text after
its closing character, if this holds of each of its items. -/
theorem Separated.append_inj {text : α → List Char} {image : α → β} {good : α → Prop}
    {separator : List Char} {close : Char} {follows : List Char → Prop}
    (separated : Separated text good separator close follows) {lefts rights : List α}
    (leftGood : ∀ item ∈ lefts, good item) (rightGood : ∀ item ∈ rights, good item)
    (each : ∀ left ∈ lefts, ∀ right, good right → ∀ rest others, follows rest → follows others →
      text left ++ rest = text right ++ others → image left = image right ∧ rest = others)
    (equal : separator.intercalate (lefts.map text) ++ close :: rest =
      separator.intercalate (rights.map text) ++ close :: others) :
    lefts.map image = rights.map image ∧ rest = others := by
  -- This is what stands between an item and the rest of the whole text.
  have follow {items : List α} (itemsGood : ∀ item ∈ items, good item) (rest : List Char) :
      follows (if (items.map text).isEmpty then close :: rest
        else separator ++ (separator.intercalate (items.map text) ++ close :: rest)) := by
    cases items with
    | nil => exact separated.closes rest
    | cons item items =>
      rw [List.map_cons, intercalate_cons_append]
      exact separated.continues item (itemsGood item List.mem_cons_self) _
  induction lefts generalizing rights with
  | nil =>
    cases rights with
    | nil => exact ⟨rfl, List.tail_eq_of_cons_eq equal⟩
    | cons right rights =>
      rw [List.map_cons, intercalate_cons_append] at equal
      exact absurd equal.symm (separated.opens right (rightGood right List.mem_cons_self) _ rest)
  | cons left lefts ih =>
    have leftsGood : ∀ item ∈ lefts, good item := (List.forall_mem_cons.mp leftGood).2
    cases rights with
    | nil =>
      rw [List.map_cons, intercalate_cons_append] at equal
      exact absurd equal (separated.opens left (leftGood left List.mem_cons_self) _ others)
    | cons right rights =>
      have rightsGood : ∀ item ∈ rights, good item := (List.forall_mem_cons.mp rightGood).2
      rw [List.map_cons, intercalate_cons_append, List.map_cons, intercalate_cons_append] at equal
      obtain ⟨sameFirst, sameRest⟩ := each left List.mem_cons_self right
        (rightGood right List.mem_cons_self) _ _ (follow leftsGood rest)
        (follow rightsGood others) equal
      have eachOther := (List.forall_mem_cons.mp each).2
      cases lefts with
      | nil =>
        cases rights with
        | nil => exact ⟨by rw [List.map, List.map, sameFirst]; rfl,
            List.tail_eq_of_cons_eq sameRest⟩
        | cons second rights => exact absurd sameRest.symm (separated.separates _ rest)
      | cons second lefts =>
        cases rights with
        | nil => exact absurd sameRest (separated.separates _ others)
        | cons third rights =>
          obtain ⟨sameOthers, same⟩ := ih leftsGood rightsGood eachOther
            (List.append_cancel_left sameRest)
          exact ⟨by rw [List.map_cons, sameFirst, sameOthers]; rfl, same⟩

end QueryTree.Text
