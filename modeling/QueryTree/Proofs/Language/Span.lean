import QueryTree.Language.Lexer

/-!
# The lexer moves forward

The cursor of the lexer never goes back: it stays on its line or begins a new one.
Tokens span the text between two cursors if they are placed between them.  A block
string is left aside, as it is placed by its closing quotes.
-/

namespace QueryTree

namespace Cursor

/-- Whether a cursor is or comes before another one. -/
def Reaches (left right : Cursor) : Prop :=
  left.line < right.line ∨
    left.line = right.line ∧ left.lineStart = right.lineStart ∧ left.offset ≤ right.offset

theorem Reaches.refl (cursor : Cursor) : cursor.Reaches cursor := .inr ⟨rfl, rfl, Nat.le_refl _⟩

theorem Reaches.trans {left middle right : Cursor} (before : left.Reaches middle)
    (after : middle.Reaches right) : left.Reaches right := by
  unfold Reaches at *
  omega

theorem reaches_advance (cursor : Cursor) (count : Nat) : cursor.Reaches (cursor.advance count) :=
  .inr ⟨rfl, rfl, Nat.le_add_right _ _⟩

theorem reaches_beginLine (cursor : Cursor) : cursor.Reaches cursor.beginLine :=
  .inl (Nat.lt_succ_self _)

theorem reaches_line (cursor : Cursor) (count : Nat) :
    cursor.Reaches (cursor.advance count).beginLine :=
  (cursor.reaches_advance count).trans (reaches_beginLine _)

theorem advance_reaches {cursor : Cursor} {first second : Nat} (less : first ≤ second) :
    (cursor.advance first).Reaches (cursor.advance second) :=
  .inr ⟨rfl, rfl, Nat.add_le_add_left less _⟩

/-- What is written at a cursor stands before what is written at a later one. -/
theorem precedes_of_reaches {left right : Cursor} (reaches : (left.advance 1).Reaches right)
    (source : String) : (left.position source).precedes (right.position source) = true := by
  unfold Reaches advance at reaches
  unfold position positionOf Position.precedes
  dsimp only at *
  split
  · rw [decide_eq_true_eq]
    omega
  · rw [decide_eq_true_eq]
    omega

end Cursor

/-- Whether tokens are placed between two cursors. -/
structure Span (source : String) (start : Cursor) (found : List Token) (stop : Cursor) : Prop where
  reaches : start.Reaches stop
  placed : ∀ token ∈ found, token.kind ≠ .blockString → ∃ cursor : Cursor,
    token.position = cursor.position source ∧ start.Reaches cursor ∧
      (cursor.advance 1).Reaches stop

namespace Span

variable {source : String} {start middle stop : Cursor} {found others : List Token}

theorem nil (reaches : start.Reaches stop) : Span source start [] stop := ⟨reaches, by simp⟩

theorem append (first : Span source start found middle) (second : Span source middle others stop) :
    Span source start (found ++ others) stop where
  reaches := first.reaches.trans second.reaches
  placed token member notBlock := by
    rcases List.mem_append.mp member with inFound | inOthers
    · obtain ⟨cursor, placed, after, before⟩ := first.placed token inFound notBlock
      exact ⟨cursor, placed, after, before.trans second.reaches⟩
    · obtain ⟨cursor, placed, after, before⟩ := second.placed token inOthers notBlock
      exact ⟨cursor, placed, first.reaches.trans after, before⟩

/-- Tokens of one span stand before those of the next one. -/
theorem precedes {left right : Token} (first : Span source start found middle)
    (second : Span source middle others stop) (isLeft : left ∈ found) (isRight : right ∈ others)
    (leftPlain : left.kind ≠ .blockString) (rightPlain : right.kind ≠ .blockString) :
    left.position.precedes right.position = true := by
  obtain ⟨cursor, placed, _, before⟩ := first.placed left isLeft leftPlain
  obtain ⟨other, otherPlaced, after, _⟩ := second.placed right isRight rightPlain
  rw [placed, otherPlaced]
  exact Cursor.precedes_of_reaches (before.trans after) source

end Span

end QueryTree
