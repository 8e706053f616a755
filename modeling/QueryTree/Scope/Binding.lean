import QueryTree.Text.Quoted

/-!
# Scopes

A definition lives in a module of the surrounding program. Its scope tells which names are bound
there, and how.
-/

namespace QueryTree

/-- How a name is bound. -/
inductive Binding where
  | imported
  | local
  /-- Bound in a way that is not known. -/
  | unknown
  deriving DecidableEq, Repr

namespace Binding

def ofCode (code : Int) : Binding :=
  if code = 1 then .imported else if code = 2 then .local else .unknown

def text : Binding → String
  | .imported => "imported"
  | .local => "local"
  | .unknown => "unknown"

/-- The binding of a word that stands for a known one. -/
def ofText? (text : String) : Option Binding :=
  if text = Binding.imported.text then some .imported
  else if text = Binding.local.text then some .local
  else none

end Binding

/-- The names bound around a definition. The first binding of a name counts. -/
structure Scope where
  bindings : List (String × Binding)
  deriving DecidableEq, Repr

namespace Scope

def empty : Scope := ⟨[]⟩

def binding? (scope : Scope) (name : String) : Option Binding :=
  scope.bindings.lookup name

/-- Bind a name, in place of what it was bound to. -/
def bind (scope : Scope) (name : String) (binding : Binding) : Scope :=
  ⟨(name, binding) :: scope.bindings.filter (·.1 ≠ name)⟩

/-- The name and the kind of a binding like `Profile=local`; a bare name is imported. -/
def splitBinding (text : String) : String × String :=
  let chars := text.toList
  match chars.dropWhile (· ≠ '=') with
  | [] => (text, Binding.imported.text)
  | _ :: kind => (String.ofList (chars.takeWhile (· ≠ '=')), String.ofList kind)

/-- Read one binding into a scope, or say what is wrong with it. -/
def readBinding (scope : Scope) (text : String) : Except String Scope :=
  let (name, kind) := splitBinding text
  if name = "" then .error ("scope: empty name in binding " ++ Text.quoted text)
  else
    match Binding.ofText? kind with
    | some binding => .ok (scope.bind name binding)
    | none =>
      .error ("scope: unknown binding kind " ++ Text.quoted kind ++ " for " ++ name ++
        ", use imported or local")

def parse (bindings : List String) : Except String Scope :=
  bindings.foldlM readBinding empty

def sorted (scope : Scope) : List (String × Binding) :=
  scope.bindings.mergeSort fun left right => left.1 ≤ right.1

end Scope

end QueryTree
