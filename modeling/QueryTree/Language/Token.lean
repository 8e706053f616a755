import QueryTree.Language.Position
import QueryTree.Text.Quoted

/-!
# Tokens of the query language

The lexical units shared by executable documents and schemas. A token has a kind, the text it
carries (for punctuation nothing) and a position. Text that is no token is represented by a token
of the kind `invalid` with the fault that was found, so that the reader of tokens decides whether
the fault is ever reported.
-/

namespace QueryTree

/-- What can be wrong with a piece of text that should be a token. -/
inductive LexicalFault where
  /-- A control character outside strings and comments. -/
  | controlCharacter (code : Nat)
  /-- A single quote where a token should begin. -/
  | singleQuote
  /-- Any other character that begins no token, by the first byte of its encoding. -/
  | unexpectedCharacter (byte : Nat)
  | digitAfterZero (next : String)
  /-- Something other than a digit where a number needs one. -/
  | missingDigit (next : String)
  /-- A control character inside a string. -/
  | controlInString (code : Nat)
  /-- A backslash at the end of the input. -/
  | danglingEscape
  /-- A backslash before something that is no escape. -/
  | unknownEscape (text : String)
  /-- A string without its closing quotes. -/
  | unterminated
  deriving DecidableEq, Repr

/-- A number in decimal digits, padded with zeros to four digits. -/
def fourDigits (value : Nat) : String :=
  let digits := toString value
  String.ofList (List.replicate (4 - digits.length) '0') ++ digits

def LexicalFault.message : LexicalFault → String
  | .controlCharacter code =>
    "Cannot contain the invalid character \"\\u" ++ fourDigits code ++ "\""
  | .singleQuote =>
    "Unexpected single quote character ('), did you mean to use a double quote (\")?"
  | .unexpectedCharacter byte =>
    "Cannot parse the unexpected character \"" ++ String.singleton (Char.ofNat byte) ++ "\"."
  | .digitAfterZero next => "Invalid number, unexpected digit after 0: " ++ next ++ "."
  | .missingDigit next => "Invalid number, expected digit but got: " ++ next ++ "."
  | .controlInString code =>
    "Invalid character within String: \"\\u" ++ fourDigits code ++ "\"."
  | .danglingEscape => "Invalid character escape sequence."
  | .unknownEscape text => "Invalid character escape sequence: \\" ++ text ++ "."
  | .unterminated => "Unterminated string."

/-- The kinds of tokens. -/
inductive TokenKind where
  | endOfInput
  | bang
  | dollar
  | ampersand
  | parenLeft
  | parenRight
  | spread
  | colon
  | equals
  | atSign
  | bracketLeft
  | bracketRight
  | braceLeft
  | braceRight
  | pipe
  | name
  | int
  | float
  | string
  | blockString
  | comment
  | invalid (fault : LexicalFault)
  deriving DecidableEq, Repr

def TokenKind.text : TokenKind → String
  | .endOfInput => "<EOF>"
  | .bang => "!"
  | .dollar => "$"
  | .ampersand => "&"
  | .parenLeft => "("
  | .parenRight => ")"
  | .spread => "..."
  | .colon => ":"
  | .equals => "="
  | .atSign => "@"
  | .bracketLeft => "["
  | .bracketRight => "]"
  | .braceLeft => "\x7b"
  | .braceRight => "\x7d"
  | .pipe => "|"
  | .name => "Name"
  | .int => "Int"
  | .float => "Float"
  | .string => "String"
  | .blockString => "BlockString"
  | .comment => "Comment"
  | .invalid _ => "<Invalid>"

/-- A lexical unit. `comment` is the last comment that stands between it and the token before. -/
structure Token where
  kind : TokenKind
  text : String
  position : Position
  comment : Option (String × Position) := none
  deriving DecidableEq, Repr

namespace Token

def missing : Token := ⟨.endOfInput, "", .unknown, none⟩

/-- A kind and a text as messages show them: punctuation alone, other tokens with their text. -/
def describe (kind : TokenKind) (text : String) : String :=
  if text = "" then kind.text else kind.text ++ " " ++ Text.quoted text

def description (token : Token) : String :=
  describe token.kind token.text

/-- Remove the comments of a token list, noting on each remaining token the last one before it. -/
def withoutComments (pending : Option (String × Position)) : List Token → List Token
  | [] => []
  | token :: tokens =>
    if token.kind = .comment then withoutComments (some (token.text, token.position)) tokens
    else { token with comment := pending } :: withoutComments none tokens

end Token

end QueryTree
