import QueryTree.Language.Parser
import QueryTree.Proofs.Diagnostic.Success

/-!
# What parsers give

A property of everything that a parser reads, whatever the tokens are.  The rules follow
the combinators of the parser.
-/

namespace QueryTree.Parser

variable {α β : Type}

/-- Whether everything that a parser reads has a property. -/
def Gives (parser : Parser α) (good : α → Prop) : Prop :=
  ∀ tokens rest value, parser tokens = .ok (value, rest) → good value

namespace Gives

variable {good : α → Prop} {fine : β → Prop}

theorem pure {value : α} (holds : good value) : Gives (Pure.pure value) good := by
  intro tokens rest found read
  cases read
  exact holds

theorem bind {first : Parser α} {next : α → Parser β} (ofFirst : Gives first good)
    (ofNext : ∀ value, good value → Gives (next value) fine) : Gives (first >>= next) fine := by
  intro tokens rest value read
  obtain ⟨⟨found, between⟩, isFirst, isNext⟩ := exists_of_bind_eq_ok read
  exact ofNext found (ofFirst tokens between found isFirst) between rest value isNext

/-- What comes first need not matter. -/
theorem after {first : Parser α} {next : α → Parser β}
    (ofNext : ∀ value, Gives (next value) fine) : Gives (first >>= next) fine :=
  bind (fun _ _ _ _ => trivial : Gives first fun _ => True) fun value _ => ofNext value

theorem failAt {token : Token} {fault : SyntaxFault} : Gives (Parser.failAt token fault) good := by
  intro tokens rest value read
  cases read

theorem ite {condition : Prop} [Decidable condition] {yes no : Parser α} (whenTrue : Gives yes good)
    (whenFalse : Gives no good) : Gives (if condition then yes else no) good := by
  split
  · exact whenTrue
  · exact whenFalse

end Gives

end QueryTree.Parser
