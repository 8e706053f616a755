import QueryTree.Yaml.Block
import QueryTree.Yaml.Plain
import QueryTree.Yaml.Property
import QueryTree.Yaml.Quoted

/-!
# Tokens of YAML

A text is a sequence of tokens. Where block collections begin and end is a matter of indentation,
and that something is a key only shows at the colon after it: the token that says so is put before
it then. Tokens after the beginning of what may still turn out to be a key are held back until that
is settled.
-/

namespace QueryTree.Yaml

/-- What a token is. -/
inductive Symbol where
  | streamEnd
  | directive (directive : Directive)
  | documentStart
  | documentEnd
  | blockSequenceStart
  | blockMappingStart
  | blockEnd
  | flowSequenceStart
  | flowSequenceEnd
  | flowMappingStart
  | flowMappingEnd
  | blockItem
  | flowSeparator
  | key
  | value
  | reference (name : String)
  | anchor (name : String)
  | tag (text : TagText)
  | scalar (isPlain : Bool) (text : String)
  deriving DecidableEq, Repr

/-- A token and its line. -/
structure Token where
  symbol : Symbol
  line : Nat
  deriving DecidableEq, Repr

/-- The beginning of what may turn out to be a key. -/
structure KeyStart where
  /-- The number of tokens before it. -/
  position : Nat
  line : Nat
  column : Nat
  index : Nat
  /-- Whether nothing else can stand there. -/
  isRequired : Bool
  deriving DecidableEq, Repr

def keyLimit : Nat := 1024

/-- Whether a key that begins here would have to have ended: keys are short and on one line. -/
def KeyStart.isPast (start : KeyStart) (cursor : Cursor) : Bool :=
  start.line < cursor.line || start.index + keyLimit < cursor.index

/-- The tokens that were read so far, and what they leave open. -/
structure TokenReader where
  cursor : Cursor
  /-- A number that is greater than the length of the text. -/
  size : Nat
  /-- The tokens, the last one first. -/
  tokens : List Token
  count : Nat
  /-- The column of the innermost block collection; outside of all, it is `-1`. -/
  indent : Int
  /-- The columns of the block collections around it. -/
  outerIndents : List Int
  /-- What may turn out to be a key, for each open bracket from the innermost one on, and last
  outside of all brackets. -/
  keys : List (Option KeyStart)
  /-- Whether a key may begin here. -/
  allowsKey : Bool
  isDone : Bool
  deriving Repr

namespace TokenReader

def start (text : String) : TokenReader :=
  let (chars, isCut) := readable text
  { cursor := .start chars isCut
    size := chars.length + 1
    tokens := []
    count := 0
    indent := -1
    outerIndents := []
    keys := [none]
    allowsKey := true
    isDone := false }

/-- The greatest number of open brackets, and of open block collections. -/
def depthLimit : Nat := 10000

/-- Whether a bracket is open. -/
def inFlow (reader : TokenReader) : Bool := 1 < reader.keys.length

def push (reader : TokenReader) (symbol : Symbol) : TokenReader :=
  { reader with
    tokens := ⟨symbol, reader.cursor.line⟩ :: reader.tokens, count := reader.count + 1 }

/-- Put a token after so many of the others. -/
def insert (reader : TokenReader) (position : Nat) (token : Token) : TokenReader :=
  let behind := reader.count - position
  { reader with
    tokens := reader.tokens.take behind ++ token :: reader.tokens.drop behind
    count := reader.count + 1 }

/-- Step over characters. -/
def advance (reader : TokenReader) (count : Nat) : TokenReader :=
  { reader with cursor := reader.cursor.advance count }

/-- Add a token for so many characters. -/
def take (reader : TokenReader) (count : Nat) (symbol : Symbol) : TokenReader :=
  (reader.push symbol).advance count

/-! ## Keys -/

/-- Settle whether there is a key in the innermost bracket. -/
def setKey (reader : TokenReader) (key : Option KeyStart) : TokenReader :=
  { reader with keys := key :: reader.keys.drop 1 }

/-- What may turn out to be a key in the innermost bracket. -/
def key? (reader : TokenReader) : Option KeyStart := reader.keys.head?.join

/-- Give up that something is a key. -/
def dropKey (reader : TokenReader) : Reading TokenReader :=
  if reader.key?.any KeyStart.isRequired then reader.cursor.fail .missingColon
  else .ok (reader.setKey none)

/-- Note that the next token may begin a key. -/
def noteKey (reader : TokenReader) : Reading TokenReader :=
  if reader.allowsKey then do
    let cursor := reader.cursor
    let isRequired := !reader.inFlow && reader.indent = cursor.column
    let reader ← reader.dropKey
    return reader.setKey
      (some ⟨reader.count, cursor.line, cursor.column, cursor.index, isRequired⟩)
  else .ok reader

/-- Give up all keys that would have to have ended. -/
def settleKeys (reader : TokenReader) : Reading TokenReader :=
  let isPast (key : KeyStart) : Bool := key.isPast reader.cursor
  if reader.keys.any fun key => key.any fun key => isPast key && key.isRequired then
    reader.cursor.fail .missingColon
  else .ok { reader with keys := reader.keys.map (Option.filter (!isPast ·)) }

def settled (reader : TokenReader) : List Token :=
  let count := ((reader.keys.filterMap id).getLast?.map KeyStart.position).getD reader.count
  reader.tokens.reverse.take count

/-! ## Indentation -/

/-- Begin a block collection at a column, unless it goes on with one. Its token stands after a
number of others. -/
def openBlock (reader : TokenReader) (column : Nat) (position line : Nat) (symbol : Symbol) :
    Reading TokenReader :=
  if reader.inFlow || (column : Int) ≤ reader.indent then .ok reader
  else if depthLimit ≤ reader.outerIndents.length then reader.cursor.fail .tooDeep
  else
    .ok { reader.insert position ⟨symbol, line⟩ with
      indent := column, outerIndents := reader.indent :: reader.outerIndents }

/-- Begin a block collection at the cursor. -/
def openBlockHere (reader : TokenReader) (symbol : Symbol) : Reading TokenReader :=
  reader.openBlock reader.cursor.column reader.count reader.cursor.line symbol

/-- End the block collections, of the columns around a reader, that lie right of a column. -/
def closeFrom (column : Int) : List Int → TokenReader → TokenReader
  | [], reader => reader
  | outer :: outers, reader =>
    if column < reader.indent then
      closeFrom column outers
        { reader.push .blockEnd with indent := outer, outerIndents := outers }
    else reader

/-- End the block collections that lie right of a column. -/
def closeBlocks (reader : TokenReader) (column : Int) : TokenReader :=
  if reader.inFlow then reader else closeFrom column reader.outerIndents reader

/-! ## Blanks -/

/-- Step over blanks, comments and the ends of at most so many lines. A tab must not stand where a
key may begin. -/
def skipSpacing : Nat → TokenReader → TokenReader
  | 0, reader => reader
  | bound + 1, reader =>
    let allowsTab := reader.inFlow || !reader.allowsKey
    let cursor := (reader.cursor.skipWhile fun char =>
      char = ' ' || (allowsTab && char = '\t')).skipComment
    if cursor.isAny isBreak then
      skipSpacing bound
        { reader with
          cursor := cursor.endLine, allowsKey := reader.allowsKey || !reader.inFlow }
    else { reader with cursor := cursor }

/-! ## Tokens -/

/-- Read a token that stands outside of all block collections. -/
def outside (reader : TokenReader) : Reading TokenReader := do
  let reader ← (reader.closeBlocks (-1)).dropKey
  return { reader with allowsKey := false }

/-- Read the end of the text, which is the end of its last line. -/
def streamEnd (reader : TokenReader) : Reading TokenReader := do
  let cursor := reader.cursor
  let cursor :=
    if cursor.column = 0 then cursor else { cursor with line := cursor.line + 1, column := 0 }
  let reader ← outside { reader with cursor := cursor }
  return { reader.push .streamEnd with isDone := true }

def directive (reader : TokenReader) : Reading TokenReader := do
  let reader ← reader.outside
  let (directive, after) ← Yaml.directive reader.cursor.step
  return { reader.push (.directive directive) with cursor := after }

def documentMark (reader : TokenReader) (symbol : Symbol) : Reading TokenReader := do
  return (← reader.outside).take 3 symbol

def openBracket (reader : TokenReader) (symbol : Symbol) : Reading TokenReader := do
  let reader ← reader.noteKey
  if depthLimit < reader.keys.length then reader.cursor.fail .tooDeep
  return { reader.take 1 symbol with keys := none :: reader.keys, allowsKey := true }

def closeBracket (reader : TokenReader) (symbol : Symbol) : Reading TokenReader := do
  let reader ← reader.dropKey
  let keys := if reader.inFlow then reader.keys.drop 1 else reader.keys
  return { reader.take 1 symbol with keys := keys, allowsKey := false }

def separator (reader : TokenReader) : Reading TokenReader := do
  return { (← reader.dropKey).take 1 .flowSeparator with allowsKey := true }

def item (reader : TokenReader) : Reading TokenReader := do
  if !reader.inFlow && !reader.allowsKey then reader.cursor.fail .misplacedItem
  let reader ← (← reader.openBlockHere .blockSequenceStart).dropKey
  return { reader.take 1 .blockItem with allowsKey := true }

def keyMark (reader : TokenReader) : Reading TokenReader := do
  if !reader.inFlow && !reader.allowsKey then reader.cursor.fail .misplacedKey
  let reader ← (← reader.openBlockHere .blockMappingStart).dropKey
  return { reader.take 1 .key with allowsKey := !reader.inFlow }

/-- Read the mark of a value after a key without a mark. -/
def valueAfter (reader : TokenReader) (key : KeyStart) : Reading TokenReader := do
  let reader := reader.insert key.position ⟨.key, key.line⟩
  let reader ← reader.openBlock key.column key.position key.line .blockMappingStart
  return { (reader.setKey none).take 1 .value with allowsKey := false }

/-- Read the mark of a value after a marked key, or after none at all. -/
def valueAlone (reader : TokenReader) : Reading TokenReader := do
  if !reader.inFlow && !reader.allowsKey then reader.cursor.fail .misplacedValue
  let reader ← reader.openBlockHere .blockMappingStart
  return { reader.take 1 .value with allowsKey := !reader.inFlow }

def valueMark (reader : TokenReader) : Reading TokenReader :=
  match reader.key? with
  | some key =>
    if !key.isPast reader.cursor then reader.valueAfter key
    else if key.isRequired then reader.cursor.fail .missingColon
    else (reader.setKey none).valueAlone
  | none => reader.valueAlone

/-- Read a token that may begin a key. -/
def content (reader : TokenReader) (read : Cursor → Reading (Symbol × Cursor)) :
    Reading TokenReader := do
  let reader ← reader.noteKey
  let (symbol, after) ← read reader.cursor
  after.need 1
  return { reader.push symbol with cursor := after, allowsKey := false }

def named (reader : TokenReader) (symbol : String → Symbol) : Reading TokenReader :=
  reader.content fun cursor => do
    let (name, after) ← nodeName cursor.step
    return (symbol name, after)

def tag (reader : TokenReader) : Reading TokenReader :=
  reader.content fun cursor => do
    let (tag, after) ← tagText cursor
    return (.tag tag, after)

def quoted (reader : TokenReader) (quote : Char) : Reading TokenReader :=
  reader.content fun cursor => do
    let (chars, after) ← quotedScalar quote reader.size cursor.step
    return (.scalar false (String.ofList chars), after)

/-- Read a plain scalar. A key may begin on the line after it. -/
def plain (reader : TokenReader) : Reading TokenReader := do
  let reader ← reader.noteKey
  let scalar ←
    plainScalar reader.inFlow (reader.indent + 1).toNat reader.size .empty reader.cursor
  scalar.after.need 1
  return { reader.push (.scalar true (String.ofList scalar.content)) with
    cursor := scalar.after, allowsKey := scalar.endsLine }

def block (reader : TokenReader) (isLiteral : Bool) : Reading TokenReader := do
  let reader ← reader.dropKey
  let (chars, after) ← blockScalar isLiteral reader.indent reader.cursor.step
  after.need 1
  return { reader.push (.scalar false (String.ofList chars)) with
    cursor := after, allowsKey := true }

def token (reader : TokenReader) : Reading TokenReader :=
  let cursor := reader.cursor
  match cursor.text with
  | [] => reader.streamEnd
  | char :: rest =>
    let isAlone := endsWord rest
    if cursor.column = 0 && char = '%' then reader.directive
    else if cursor.isAtMark '-' then reader.documentMark .documentStart
    else if cursor.isAtMark '.' then reader.documentMark .documentEnd
    else if char = '[' then reader.openBracket .flowSequenceStart
    else if char = '\x7b' then reader.openBracket .flowMappingStart
    else if char = ']' then reader.closeBracket .flowSequenceEnd
    else if char = '\x7d' then reader.closeBracket .flowMappingEnd
    else if char = ',' then reader.separator
    else if char = '-' && isAlone then reader.item
    else if char = '?' && (reader.inFlow || isAlone) then reader.keyMark
    else if char = ':' && (reader.inFlow || isAlone) then reader.valueMark
    else if char = '*' then reader.named .reference
    else if char = '&' then reader.named .anchor
    else if char = '!' then reader.tag
    else if char = '|' && !reader.inFlow then reader.block true
    else if char = '>' && !reader.inFlow then reader.block false
    else if char = '\'' || char = '"' then reader.quoted char
    else if beginsPlain reader.inFlow cursor.text then reader.plain
    else cursor.fail .strayCharacter

/-- Read the next token, and what ends before it. -/
def next (reader : TokenReader) : Reading TokenReader := do
  let reader := skipSpacing reader.size reader
  let reader := reader.closeBlocks reader.cursor.column
  reader.cursor.need 4
  reader.token

/-- The tokens up to the end of a text or up to an error, at most so many. -/
def finish : Nat → TokenReader → List Token × Option ReadError
  | 0, reader => (reader.tokens.reverse, none)
  | bound + 1, reader =>
    if reader.isDone then (reader.tokens.reverse, none)
    else
      match reader.settleKeys with
      | .error error => (reader.settled, some error)
      | .ok reader =>
        match reader.next with
        | .error error => (reader.settled, some error)
        | .ok reader => finish bound reader

end TokenReader

/-- The tokens of a text that are settled up to its end or up to an error. -/
def tokens (text : String) : List Token × Option ReadError :=
  let reader := TokenReader.start text
  reader.finish (reader.size + 1)

end QueryTree.Yaml
