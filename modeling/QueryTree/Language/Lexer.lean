import QueryTree.Language.Token

/-!
# From characters to tokens

The lexer walks the characters of a source from left to right. Each reader takes the remaining
characters and gives back what it read together with the characters that follow, so the text that
is left always gets shorter. Positions come from a cursor that counts characters and knows where
the current line began.

`lex` lists the tokens of a whole source. The list ends with the end of the input or with the first
piece of text that is no token.
-/

namespace QueryTree

/-- How far the lexer has come: the number of the current line, the offset of its first character
and the offset of the next character. -/
structure Cursor where
  line : Nat
  lineStart : Nat
  offset : Nat
  deriving DecidableEq, Repr

namespace Cursor

def start : Cursor := ⟨1, 0, 0⟩

/-- Step over characters of the current line. -/
def advance (cursor : Cursor) (count : Nat) : Cursor :=
  { cursor with offset := cursor.offset + count }

/-- Begin a new line at the current offset. -/
def beginLine (cursor : Cursor) : Cursor :=
  { cursor with line := cursor.line + 1, lineStart := cursor.offset }

/-- The position of an offset, counted from the beginning of the current line. -/
def positionOf (cursor : Cursor) (source : String) (offset : Nat) : Position :=
  ⟨cursor.line, (offset : Int) - cursor.lineStart + 1, source⟩

def position (cursor : Cursor) (source : String) : Position :=
  cursor.positionOf source cursor.offset

end Cursor

namespace Lexer

/-- Whether a character may begin a name. -/
def isNameStart (character : Char) : Bool :=
  character.isAlpha || character == '_'

/-- Whether a character may continue a name. -/
def isNameRest (character : Char) : Bool :=
  character.isAlphanum || character == '_'

/-- Whether a character may stand in a comment. -/
def isCommentChar (character : Char) : Bool :=
  decide (0x1f < character.toNat) || character == '\t'

/-- Skip what separates tokens: blanks, commas, line ends and byte order marks. A carriage return
begins its new line before a line feed that follows it. -/
def skipIgnored (cursor : Cursor) : List Char → Cursor × List Char
  | [] => (cursor, [])
  | character :: rest =>
    if character = '\t' ∨ character = ' ' ∨ character = ',' ∨ character.toNat = 0xFEFF then
      skipIgnored (cursor.advance 1) rest
    else if character = '\n' then
      skipIgnored (cursor.advance 1).beginLine rest
    else if character = '\r' then
      match rest with
      | next :: rest =>
        if next = '\n' then skipIgnored ((cursor.advance 1).beginLine.advance 1) rest
        else skipIgnored (cursor.advance 1).beginLine (next :: rest)
      | [] => ((cursor.advance 1).beginLine, [])
    else (cursor, character :: rest)

/-- The first byte of a character's encoding. -/
def leadByte (character : Char) : Nat :=
  let code := character.toNat
  if code < 0x80 then code
  else if code < 0x800 then 0xC0 + code / 0x40
  else if code < 0x10000 then 0xE0 + code / 0x1000
  else 0xF0 + code / 0x40000

/-- How a message about a number names what follows. -/
def describeNext : List Char → String
  | [] => "<EOF>"
  | character :: _ => "\"" ++ String.singleton (Char.ofNat (leadByte character)) ++ "\""

/-- What reading a number gives: its characters and whether it has a fraction or an exponent, or
the number of characters before a fault. -/
inductive NumberScan where
  | done (characters : List Char) (isFloat : Bool) (rest : List Char)
  | failed (fault : LexicalFault) (width : Nat)

/-- Take the characters at the front that a test accepts. -/
def takeChars (test : Char → Bool) (characters : List Char) : List Char × List Char :=
  (characters.takeWhile test, characters.dropWhile test)

/-- Take one character at the front if a test accepts it. -/
def takeChar (test : Char → Bool) : List Char → List Char × List Char
  | [] => ([], [])
  | character :: rest => if test character then ([character], rest) else ([], character :: rest)

/-- Read the exponent of a number, after the characters already read. -/
def exponent (done : List Char) (isFloat : Bool) (characters : List Char) : NumberScan :=
  let (mark, rest) := takeChar (fun c => c == 'e' || c == 'E') characters
  if mark.isEmpty then .done done isFloat characters
  else
    let (sign, rest) := takeChar (fun c => c == '-' || c == '+') rest
    let (digits, rest) := takeChars Char.isDigit rest
    let done := done ++ mark ++ sign
    if digits.isEmpty then .failed (.missingDigit (describeNext rest)) done.length
    else .done (done ++ digits) true rest

/-- Read the fraction and the exponent of a number, after its integral part. -/
def fraction (done : List Char) (characters : List Char) : NumberScan :=
  let (point, rest) := takeChar (· == '.') characters
  if point.isEmpty then exponent done false characters
  else
    let (digits, rest) := takeChars Char.isDigit rest
    let done := done ++ point
    if digits.isEmpty then .failed (.missingDigit (describeNext rest)) done.length
    else exponent (done ++ digits) true rest

/-- Read a number: a sign, digits without a leading zero, a fraction, an exponent. -/
def number (characters : List Char) : NumberScan :=
  let (sign, rest) := takeChar (· == '-') characters
  let (zero, afterZero) := takeChar (· == '0') rest
  if zero.isEmpty then
    let (digits, rest) := takeChars Char.isDigit rest
    if digits.isEmpty then .failed (.missingDigit (describeNext rest)) sign.length
    else fraction (sign ++ digits) rest
  else
    let (digits, _) := takeChars Char.isDigit afterZero
    if digits.isEmpty then fraction (sign ++ zero) afterZero
    else .failed (.digitAfterZero (describeNext afterZero)) (sign ++ zero).length

/-- What reading a string gives: its content with escapes resolved, the number of characters up to
the closing quote and what follows that quote, or a fault and the number of characters before it. -/
inductive StringScan where
  | closed (content : List Char) (width : Nat) (rest : List Char)
  | failed (fault : LexicalFault) (width : Nat)

/-- Put a character of the content, written with `width` characters, in front. -/
def StringScan.push (character : Char) (width : Nat) : StringScan → StringScan
  | .closed content total rest => .closed (character :: content) (width + total) rest
  | .failed fault total => .failed fault (width + total)

/-- The character that a letter after a backslash stands for. -/
def escaped? (letter : Char) : Option Char :=
  if letter = '"' ∨ letter = '/' ∨ letter = '\\' then some letter
  else if letter = 'b' then some (Char.ofNat 8)
  else if letter = 'f' then some (Char.ofNat 12)
  else if letter = 'n' then some '\n'
  else if letter = 'r' then some '\r'
  else if letter = 't' then some '\t'
  else none

/-- The character of a code point; a surrogate stands for no character. -/
def scalar (code : Nat) : Char :=
  if code.isValidChar then Char.ofNat code else Char.ofNat 0xFFFD

/-- The number of bytes that encode a list of characters. -/
def byteLength (characters : List Char) : Nat :=
  characters.foldl (fun length character => length + character.utf8Size) 0

/-- The first bytes of a text; a character cut in two leaves a replacement for each of its bytes. -/
def clipBytes (budget : Nat) : List Char → List Char
  | [] => []
  | character :: rest =>
    let size := character.utf8Size
    if size ≤ budget then character :: clipBytes (budget - size) rest
    else List.replicate budget (Char.ofNat 0xFFFD)

/-- The fault of a numeric escape whose digits are `rest`, shown with at most five bytes. -/
def numericEscapeFault (rest : List Char) : LexicalFault :=
  if byteLength rest ≤ 4 then .unknownEscape (String.ofList ('u' :: rest))
  else .unknownEscape (String.ofList (clipBytes 5 ('u' :: rest)))

/-- Read a string after its opening quote. A numeric escape has four digits and something after
them, at least the closing quote. -/
def stringBody : List Char → StringScan
  | [] => .failed .unterminated 0
  | character :: rest =>
    if character = '"' then .closed [] 0 rest
    else if character = '\n' ∨ character = '\r' then .failed .unterminated 0
    else if character.toNat < 0x20 ∧ character ≠ '\t' then
      .failed (.controlInString character.toNat) 0
    else if character = '\\' then
      match rest with
      | [] => .failed .danglingEscape 1
      | letter :: rest =>
        if letter = 'u' then
          match rest with
          | a :: b :: c :: d :: next :: rest =>
            match Text.hexNumber? [a, b, c, d] with
            | some code => (stringBody (next :: rest)).push (scalar code) 6
            | none => .failed (numericEscapeFault (a :: b :: c :: d :: next :: rest)) 1
          | rest => .failed (numericEscapeFault rest) 1
        else
          match escaped? letter with
          | some character => (stringBody rest).push character 2
          | none =>
            .failed (.unknownEscape (String.singleton (Char.ofNat (leadByte letter)))) 1
    else (stringBody rest).push character 1

/-- What reading a block string gives: its raw content, the cursor at the closing quotes and what
follows them, or a fault with the cursor where it was found. -/
inductive BlockScan where
  | closed (raw : List Char) (cursor : Cursor) (rest : List Char)
  | failed (fault : LexicalFault) (cursor : Cursor)

/-- Put characters of the raw content in front. -/
def BlockScan.push (characters : List Char) : BlockScan → BlockScan
  | .closed raw cursor rest => .closed (characters ++ raw) cursor rest
  | .failed fault cursor => .failed fault cursor

/-- Whether the text begins with three quotes. -/
def startsTripleQuote (characters : List Char) : Bool :=
  characters.take 3 == ['"', '"', '"']

/-- Read a block string after its opening quotes. Every kind of line end counts as a line feed. -/
def blockBody (cursor : Cursor) : List Char → BlockScan
  | [] => .failed .unterminated cursor
  | character :: rest =>
    if character = '"' ∧ startsTripleQuote (character :: rest) then
      .closed [] cursor (rest.drop 2)
    else if character = '\r' then
      match rest with
      | next :: rest =>
        if next = '\n' then (blockBody (cursor.advance 2).beginLine rest).push ['\n']
        else (blockBody (cursor.advance 1).beginLine (next :: rest)).push ['\n']
      | [] => .failed .unterminated (cursor.advance 1).beginLine
    else if character = '\n' then (blockBody (cursor.advance 1).beginLine rest).push ['\n']
    else if character.toNat < 0x20 ∧ character ≠ '\t' then
      .failed (.controlInString character.toNat) cursor
    else if character = '\\' then
      match rest with
      | a :: b :: c :: rest =>
        if startsTripleQuote [a, b, c] then
          (blockBody (cursor.advance 4) rest).push ['"', '"', '"']
        else (blockBody (cursor.advance 1) (a :: b :: c :: rest)).push [character]
      | rest => (blockBody (cursor.advance 1) rest).push [character]
    else (blockBody (cursor.advance 1) rest).push [character]

/-- Cut a text at its line feeds. -/
def splitLines : List Char → List (List Char)
  | [] => [[]]
  | character :: rest =>
    if character = '\n' then [] :: splitLines rest
    else
      match splitLines rest with
      | [] => [[character]]
      | line :: lines => (character :: line) :: lines

/-- Whether a character is a blank within a line. -/
def isBlank (character : Char) : Bool :=
  character == ' ' || character == '\t'

/-- The indentation of a line, or `none` if it holds blanks only. -/
def indent? (line : List Char) : Option Nat :=
  let width := (line.takeWhile isBlank).length
  if width < line.length then some width else none

/-- The least indentation of the lines that hold more than blanks. -/
def commonIndent? (lines : List (List Char)) : Option Nat :=
  (lines.filterMap indent?).min?

/-- Put lines together again with line feeds. -/
def joinLines : List (List Char) → List Char
  | [] => []
  | [line] => line
  | line :: lines => line ++ '\n' :: joinLines lines

/-- Whether a line holds blanks only. -/
def isBlankLine (line : List Char) : Bool :=
  line.all isBlank

/-- The value of a block string: the common indentation is removed from every line but the first,
then blank lines at both ends are dropped. -/
def blockValue (raw : List Char) : List Char :=
  let lines := splitLines raw
  let lines :=
    match commonIndent? lines, lines with
    | some indent, first :: rest => first :: rest.map (List.drop indent)
    | _, lines => lines
  joinLines ((lines.dropWhile isBlankLine).reverse.dropWhile isBlankLine).reverse

def punctuation? (character : Char) : Option TokenKind :=
  match character with
  | '!' => some .bang
  | '$' => some .dollar
  | '&' => some .ampersand
  | '(' => some .parenLeft
  | ')' => some .parenRight
  | ':' => some .colon
  | '=' => some .equals
  | '@' => some .atSign
  | '[' => some .bracketLeft
  | ']' => some .bracketRight
  | '{' => some .braceLeft
  | '}' => some .braceRight
  | '|' => some .pipe
  | _ => none

/-- A token, and what the lexer goes on with: the cursor after it and the remaining characters. -/
abbrev Step := Token × Cursor × List Char

/-- A token for text that is none, placed where the lexer stopped. Nothing is read after it. -/
def invalidStep (source : String) (fault : LexicalFault) (cursor : Cursor) : Step :=
  (⟨.invalid fault, "", cursor.position source, none⟩, cursor, [])

/-- A token made of characters of the current line. -/
def plainStep (source : String) (kind : TokenKind) (text : List Char) (width : Nat)
    (cursor : Cursor) (rest : List Char) : Step :=
  (⟨kind, String.ofList text, cursor.position source, none⟩, cursor.advance width, rest)

def numberStep (source : String) (cursor : Cursor) (characters : List Char) : Step :=
  match number characters with
  | .done digits isFloat rest =>
    plainStep source (if isFloat then .float else .int) digits digits.length cursor rest
  | .failed fault width => invalidStep source fault (cursor.advance width)

/-- The token of a string; it is placed at its first content character. -/
def stringStep (source : String) (cursor : Cursor) (afterQuote : List Char) : Step :=
  match stringBody afterQuote with
  | .closed content width rest =>
    plainStep source .string content (width + 1) (cursor.advance 1) rest
  | .failed fault width => invalidStep source fault (cursor.advance (1 + width))

/-- The token of a block string. Its line is that of the closing quotes, and its column counts
from the beginning of that line to the first content character. -/
def blockStep (source : String) (cursor : Cursor) (afterQuotes : List Char) : Step :=
  match blockBody (cursor.advance 3) afterQuotes with
  | .closed raw closing rest =>
    (⟨.blockString, String.ofList (blockValue raw), closing.positionOf source (cursor.offset + 3),
      none⟩, closing.advance 3, rest)
  | .failed fault cursor => invalidStep source fault cursor

def strayFault (character : Char) : LexicalFault :=
  if character.toNat < 0x20 then .controlCharacter character.toNat
  else if character = '\'' then .singleQuote
  else .unexpectedCharacter (leadByte character)

/-- The token that begins with the given character. -/
def tokenStep (source : String) (cursor : Cursor) (character : Char) (rest : List Char) : Step :=
  match punctuation? character with
  | some kind => plainStep source kind [] 1 cursor rest
  | none =>
    if character = '.' then
      if rest.take 2 = ['.', '.'] then plainStep source .spread [] 3 cursor (rest.drop 2)
      else invalidStep source (strayFault character) cursor
    else if character = '#' then
      let (text, after) := takeChars isCommentChar rest
      plainStep source .comment (character :: text) (text.length + 1) cursor after
    else if isNameStart character then
      let (text, after) := takeChars isNameRest rest
      plainStep source .name (character :: text) (text.length + 1) cursor after
    else if character = '-' ∨ character.isDigit then
      numberStep source cursor (character :: rest)
    else if character = '"' then
      if startsTripleQuote (character :: rest) then blockStep source cursor (rest.drop 2)
      else stringStep source cursor rest
    else invalidStep source (strayFault character) cursor

def nextToken (source : String) (cursor : Cursor) (characters : List Char) : Step :=
  match skipIgnored cursor characters with
  | (cursor, []) => (⟨.endOfInput, "", cursor.position source, none⟩, cursor, [])
  | (cursor, character :: rest) => tokenStep source cursor character rest

/-- Whether no token can follow. -/
def isFinal : TokenKind → Bool
  | .endOfInput => true
  | .invalid _ => true
  | _ => false

def tokens (source : String) : Nat → Cursor → List Char → List Token
  | 0, _, _ => []
  | bound + 1, cursor, characters =>
    let (token, cursor, rest) := nextToken source cursor characters
    if isFinal token.kind then [token] else token :: tokens source bound cursor rest

end Lexer

/-- All tokens of a source, comments included. Every token but the last one takes at least one
character, so the bound is never reached. -/
def lex (source : String) (text : String) : List Token :=
  Lexer.tokens source (text.toList.length + 1) .start text.toList

end QueryTree
