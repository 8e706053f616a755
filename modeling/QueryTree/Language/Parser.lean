import QueryTree.Language.Lexer

/-!
# Reading token lists

A parser takes the tokens that are left and gives back a result with the tokens after it, or the
first mistake it meets. The list always ends with a token that no grammar rule accepts, the end of
the input or a piece of invalid text, so looking at the next token never fails.
-/

namespace QueryTree

/-- What can be wrong with a list of tokens. -/
inductive SyntaxFault where
  /-- A token of another kind than the grammar asks for. -/
  | expectedKind (expected found : TokenKind)
  /-- Something else than the word that the grammar asks for. -/
  | expectedWord (word : String) (kind : TokenKind) (text : String)
  /-- A token that cannot stand here. -/
  | unexpected (kind : TokenKind) (text : String)
  /-- A pair of brackets with nothing between them. -/
  | emptyGroup (found : TokenKind)
  /-- Text that is no token. -/
  | lexical (fault : LexicalFault)
  deriving DecidableEq, Repr

def SyntaxFault.message : SyntaxFault → String
  | .expectedKind expected found => "Expected " ++ expected.text ++ ", found " ++ found.text
  | .expectedWord word kind text =>
    "Expected " ++ Text.quoted word ++ ", found " ++ Token.describe kind text
  | .unexpected kind text => "Unexpected " ++ Token.describe kind text
  | .emptyGroup found => "expected at least one definition, found " ++ found.text
  | .lexical fault => fault.message

/-- A mistake and the position of the token that shows it. -/
structure SyntaxError where
  fault : SyntaxFault
  position : Position
  deriving DecidableEq, Repr

/-- A reader of token lists that stops at the first mistake. -/
abbrev Parser := StateT (List Token) (Except SyntaxError)

namespace Parser

/-- Stop at a token with the given mistake. -/
def failAt {α : Type} (token : Token) (fault : SyntaxFault) : Parser α :=
  throw ⟨fault, token.position⟩

/-- The next token, which stays in place. -/
def peek : Parser Token :=
  return (← get).headD .missing

/-- Take the next token. Invalid text reports its own fault here. -/
def next : Parser Token := do
  let token ← peek
  match token.kind with
  | .invalid fault => failAt token (.lexical fault)
  | _ =>
    modify List.tail
    return token

def refuse {α : Type} (token : Token) : Parser α :=
  failAt token (.unexpected token.kind token.text)

def refuseNext {α : Type} : Parser α := do
  refuse (← peek)

def expect (kind : TokenKind) : Parser Token := do
  let token ← peek
  if token.kind = kind then next else failAt token (.expectedKind kind token.kind)

def expectWord (word : String) : Parser Token := do
  let token ← peek
  if token.kind = .name ∧ token.text = word then next
  else failAt token (.expectedWord word token.kind token.text)

/-- Take the next token if it has the given kind, and tell whether it had. -/
def skip (kind : TokenKind) : Parser Bool := do
  let token ← peek
  if token.kind = kind then
    let _ ← next
    return true
  else return false

def name : Parser String :=
  return (← expect .name).text

def position : Parser Position :=
  return (← peek).position

/-- Read items until the closing token is next, at most `bound` of them. -/
def itemsUntil {α : Type} (close : TokenKind) (item : Parser α) : Nat → Parser (List α)
  | 0 => refuseNext
  | bound + 1 => do
    if (← peek).kind = close then return []
    else
      let first ← item
      let others ← itemsUntil close item bound
      return first :: others

/-- Read the items of an open group. Every item takes a token, so the bound is never reached. -/
def items {α : Type} (close : TokenKind) (item : Parser α) : Parser (List α) := do
  itemsUntil close item ((← get).length + 1)

/-- Read a group between brackets, which may hold nothing. Without the opening bracket there is no
group and nothing is read. -/
def group {α : Type} (opening close : TokenKind) (item : Parser α) : Parser (List α) := do
  if ← skip opening then
    let values ← items close item
    let _ ← next
    return values
  else return []

/-- Read a group between brackets that has to hold something. Without the opening bracket there is
no group and nothing is read. -/
def groupOfSome {α : Type} (opening close : TokenKind) (item : Parser α) : Parser (List α) := do
  if ← skip opening then
    let values ← items close item
    let last ← peek
    if values.isEmpty then failAt last (.emptyGroup last.kind)
    else
      let _ ← next
      return values
  else return []

end Parser

end QueryTree
