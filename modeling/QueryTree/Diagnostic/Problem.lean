/-!
# Problems of a definition

Everything that can be wrong with a definition that is compiled, as opposed to a fault of the
compiler. Each problem belongs to a family, has a code that names the broken rule, and a message.
-/

namespace QueryTree

/-- The families of problems. `other` stands for a numeric code outside of them. -/
inductive Family where
  /-- A definition that breaks a structural rule of the runtime. -/
  | structuralViolation
  /-- A directive, selection or literal that cannot be expressed. -/
  | unsupportedConstruct
  /-- A fragment reference that is not bound where the definition lives. -/
  | scopeResolutionFailure
  /-- Input that lacks a required part or uses a literal of the wrong kind. -/
  | malformedInput
  | other (code : Int)
  deriving DecidableEq, Repr

namespace Family

def ofCode (code : Int) : Family :=
  if code = 1 then .structuralViolation
  else if code = 2 then .unsupportedConstruct
  else if code = 3 then .scopeResolutionFailure
  else if code = 4 then .malformedInput
  else .other code

def text : Family → String
  | .structuralViolation => "StructuralViolation"
  | .unsupportedConstruct => "UnsupportedConstruct"
  | .scopeResolutionFailure => "ScopeResolutionFailure"
  | .malformedInput => "MalformedInput"
  | .other code => "String() not implemented for Kind: " ++ toString code

end Family

/-- What can be wrong with a definition. -/
inductive Problem where
  /-- The source cannot be read. -/
  | parseFailure (message : String)
  /-- A source holds another number of definitions than one. -/
  | definitionCount (count : Int)
  /-- An operation without a name. -/
  | missingName (kind : String)
  /-- An operation that selects no field. -/
  | missingRootField (definition : String)
  | missingRootType (operation : String)
  | unknownType (type : String)
  | unknownField (field type : String)
  | unknownArgument (argument field : String)
  | invalidLiteral (raw : String)
  /-- An argument of `@relay` of the wrong kind. -/
  | invalidRelayArgument (argument expected : String)
  /-- A fragment name that does not name a module and a property. -/
  | invalidFragmentName (fragment : String)
  /-- An operation with another number of root selections than one. -/
  | tooManyRootFields (count : Int) (operation definition : String)
  /-- A root field with more than one argument. -/
  | invalidRootFieldArity (field : String)
  /-- Pagination arguments that exclude each other. -/
  | conflictingPaginationArguments (field : String) (combination : List String)
      (alternatives : String)
  /-- Items of a connection that is not limited. -/
  | missingPaginationArgument (subfield field : String)
  /-- A connection's node selected past its edges. -/
  | useEdgesNodeInstead (subfield field edges node : String)
  /-- A mutation field that declares another number of arguments than one. -/
  | wrongMutationArgumentCount (field : String) (count : Int) (expected : String)
  /-- A mutation field whose argument has another name than the configured one. -/
  | wrongMutationArgumentName (field argument expected : String)
  /-- A mutation field that is given more than one argument. -/
  | tooManyMutationArguments (count : Int) (field expected : String)
  /-- A node field outside the root type. -/
  | misplacedNodeField (argument type parent : String)
  | duplicateArgumentDefinitions (definition : String)
  | unsupportedSpreadDirective (directive fragment : String)
  | conflictingSpreadDirectives (fragment : String)
  /-- An argument of a spread's `@relay` other than its mask. -/
  | invalidMaskArgument (fragment argument : String)
  /-- A variable where `@relay` takes constants. -/
  | variableInRelayDirective (variableName argument : String)
  | unsupportedSelection (description : String)
  /-- A fragment of which neither the module nor the property is bound. -/
  | unresolvedFragmentReference (module property fragment : String)
  /-- A bare code, which stands for every problem of that code. -/
  | marker (code : String)
  deriving DecidableEq, Repr

namespace Problem

def family : Problem → Family
  | .parseFailure _ => .malformedInput
  | .definitionCount _ => .malformedInput
  | .missingName _ => .malformedInput
  | .missingRootField _ => .malformedInput
  | .missingRootType _ => .malformedInput
  | .unknownType _ => .malformedInput
  | .unknownField _ _ => .malformedInput
  | .unknownArgument _ _ => .malformedInput
  | .invalidLiteral _ => .malformedInput
  | .invalidRelayArgument _ _ => .malformedInput
  | .invalidFragmentName _ => .malformedInput
  | .tooManyRootFields _ _ _ => .structuralViolation
  | .invalidRootFieldArity _ => .structuralViolation
  | .conflictingPaginationArguments _ _ _ => .structuralViolation
  | .missingPaginationArgument _ _ => .structuralViolation
  | .useEdgesNodeInstead _ _ _ _ => .structuralViolation
  | .wrongMutationArgumentCount _ _ _ => .structuralViolation
  | .wrongMutationArgumentName _ _ _ => .structuralViolation
  | .tooManyMutationArguments _ _ _ => .structuralViolation
  | .misplacedNodeField _ _ _ => .structuralViolation
  | .duplicateArgumentDefinitions _ => .unsupportedConstruct
  | .unsupportedSpreadDirective _ _ => .unsupportedConstruct
  | .conflictingSpreadDirectives _ => .unsupportedConstruct
  | .invalidMaskArgument _ _ => .unsupportedConstruct
  | .variableInRelayDirective _ _ => .unsupportedConstruct
  | .unsupportedSelection _ => .unsupportedConstruct
  | .unresolvedFragmentReference _ _ _ => .scopeResolutionFailure
  | .marker _ => .other 0

def code : Problem → String
  | .parseFailure _ => "ParseFailure"
  | .definitionCount _ => "DefinitionCount"
  | .missingName _ => "MissingName"
  | .missingRootField _ => "MissingRootField"
  | .missingRootType _ => "MissingRootType"
  | .unknownType _ => "UnknownType"
  | .unknownField _ _ => "UnknownField"
  | .unknownArgument _ _ => "UnknownArgument"
  | .invalidLiteral _ => "InvalidLiteral"
  | .invalidRelayArgument _ _ => "InvalidRelayArgument"
  | .invalidFragmentName _ => "InvalidFragmentName"
  | .tooManyRootFields _ _ _ => "TooManyRootFields"
  | .invalidRootFieldArity _ => "InvalidRootFieldArity"
  | .conflictingPaginationArguments _ _ _ => "ConflictingPaginationArguments"
  | .missingPaginationArgument _ _ => "MissingPaginationArgument"
  | .useEdgesNodeInstead _ _ _ _ => "UseEdgesNodeInstead"
  | .wrongMutationArgumentCount _ _ _ => "WrongMutationArgumentShape"
  | .wrongMutationArgumentName _ _ _ => "WrongMutationArgumentShape"
  | .tooManyMutationArguments _ _ _ => "WrongMutationArgumentShape"
  | .misplacedNodeField _ _ _ => "MisplacedNodeField"
  | .duplicateArgumentDefinitions _ => "DuplicateArgumentDefinitions"
  | .unsupportedSpreadDirective _ _ => "UnsupportedSpreadDirective"
  | .conflictingSpreadDirectives _ => "ConflictingSpreadDirectives"
  | .invalidMaskArgument _ _ => "InvalidMaskArgument"
  | .variableInRelayDirective _ _ => "VariableInRelayDirective"
  | .unsupportedSelection _ => "UnsupportedSelection"
  | .unresolvedFragmentReference _ _ _ => "UnresolvedFragmentReference"
  | .marker code => code

/-- A name between backticks, as messages show it. -/
def ticked (name : String) : String := "`" ++ name ++ "`"

def message : Problem → String
  | .parseFailure message => message
  | .definitionCount count => "expected exactly one definition, got " ++ toString count
  | .missingName kind => kind ++ " definitions must contain names"
  | .missingRootField definition =>
    "the definition named " ++ ticked definition ++ " does not select any root field"
  | .missingRootType operation => "the schema does not define a " ++ operation ++ " type"
  | .unknownType type => "the type " ++ ticked type ++ " does not exist in the schema"
  | .unknownField field type =>
    "you supplied a field named " ++ ticked field ++ " on type " ++ ticked type ++
      ", but no such field exists"
  | .unknownArgument argument field =>
    "you supplied an argument named " ++ ticked argument ++ " on field " ++ ticked field ++
      ", but no such argument exists"
  | .invalidLiteral raw => "the literal " ++ ticked raw ++ " cannot be represented"
  | .invalidRelayArgument argument expected =>
    "the " ++ ticked argument ++ " argument of the `@relay` directive must be " ++ expected
  | .invalidFragmentName fragment =>
    "fragments should be named `ModuleName_fragmentName`, got " ++ ticked fragment
  | .tooManyRootFields count operation definition =>
    "there are " ++ toString count ++ " fields supplied to the " ++ operation ++ " named " ++
      ticked definition ++ ", but " ++ operation ++ "s must have exactly one field"
  | .invalidRootFieldArity field =>
    "invalid root field " ++ ticked field ++
      "; only root fields with zero or one argument are supported"
  | .conflictingPaginationArguments field combination alternatives =>
    "connection arguments " ++ ticked (field ++ "(" ++ ", ".intercalate combination ++ ")") ++
      " are not supported unless both are variables. Use " ++ alternatives
  | .missingPaginationArgument subfield field =>
    "you supplied the " ++ ticked subfield ++ " field on a connection named " ++ ticked field ++
      ", but you did not supply an argument necessary to handle the connection. " ++
      "Please specify a limit argument like `first`, or `last` or fetch a specific item with " ++
      "a `find` argument"
  | .useEdgesNodeInstead subfield field edges node =>
    "you supplied a field named " ++ ticked subfield ++ " on a connection named " ++
      ticked field ++ ", but pagination is not supported on connections without using " ++
      ticked edges ++ ". Use " ++
      ticked (field ++ "\x7b" ++ edges ++ "\x7b" ++ node ++ "\x7b...\x7d\x7d\x7d") ++ " instead"
  | .wrongMutationArgumentCount field count expected =>
    "your schema defines a mutation field " ++ ticked field ++ " that takes " ++
      toString count ++
      " arguments, but mutation fields must have exactly one argument named " ++ ticked expected
  | .wrongMutationArgumentName field argument expected =>
    "your schema defines a mutation field " ++ ticked field ++
      " that takes an argument named " ++ ticked argument ++
      ", but mutation fields must have exactly one argument named " ++ ticked expected
  | .tooManyMutationArguments count field expected =>
    "there are " ++ toString count ++ " arguments supplied to the mutation field named " ++
      ticked field ++ ", but mutation fields must have exactly one " ++ ticked expected ++
      " argument"
  | .misplacedNodeField argument type parent =>
    "you defined a " ++ ticked ("node(" ++ argument ++ ": " ++ type ++ ")") ++
      " field on type " ++ ticked parent ++
      ", but the `node` field must be defined on the root type"
  | .duplicateArgumentDefinitions definition =>
    "expected only one @argumentDefinitions directive on " ++ ticked definition
  | .unsupportedSpreadDirective directive fragment =>
    "unsupported directive " ++ ticked directive ++ " on fragment spread " ++
      ticked ("..." ++ fragment)
  | .conflictingSpreadDirectives fragment =>
    "the fragment spread " ++ ticked ("..." ++ fragment) ++
      " accepts only one directive, either `@arguments` or `@relay(mask: ...)`"
  | .invalidMaskArgument fragment argument =>
    "expected the `@relay` directive on " ++ ticked ("..." ++ fragment) ++
      " to only have a `mask` argument, but got " ++ ticked argument
  | .variableInRelayDirective variableName argument =>
    "you supplied " ++ ticked ("$" ++ variableName) ++ " as the " ++ ticked argument ++
      " argument to the `@relay` directive, but `@relay` requires scalar argument values"
  | .unsupportedSelection description => "unsupported selection: " ++ description
  | .unresolvedFragmentReference module property fragment =>
    "please make sure module " ++ ticked module ++
      " is imported and not renamed or the fragment " ++ ticked fragment ++
      " is defined and bound to local variable " ++ ticked property
  | .marker _ => ""

end Problem

end QueryTree
