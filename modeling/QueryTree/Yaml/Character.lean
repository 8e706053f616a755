/-!
# Characters of YAML text

Which characters a text may hold, where lines end and what counts as blank. A text is read in
chunks of bytes; a chunk with a character that must not occur cannot be read at all.
-/

namespace QueryTree.Yaml

/-- Whether a character may stand in a text. -/
def isReadable (char : Char) : Bool :=
  let code := char.toNat
  code = 0x09 || code = 0x0A || code = 0x0D || (0x20 ≤ code && code ≤ 0x7E) || code = 0x85 ||
    (0xA0 ≤ code && code ≤ 0xFFFD) || 0x10000 ≤ code

/-- Whether a character ends a line. -/
def isBreak (char : Char) : Bool :=
  char = '\n' || char = '\r' || [0x85, 0x2028, 0x2029].contains char.toNat

def isBlank (char : Char) : Bool := char = ' ' || char = '\t'

/-- Whether a character separates words. -/
def isSpacing (char : Char) : Bool := isBlank char || isBreak char

/-- Whether nothing, a blank or the end of a line follows. -/
def endsWord (text : List Char) : Bool := text.head?.all isSpacing

/-- Whether a character may stand in a name. -/
def isNameChar (char : Char) : Bool := char.isAlphanum || char = '_' || char = '-'

/-- The mark that may stand before a text to tell its encoding. -/
def orderMark : Char := '\ufeff'

def chunkSize : Nat := 512

/-- The characters at the beginning of a text that so many bytes hold, and the rest. -/
def takeBytes (room : Nat) : List Char → List Char × List Char
  | [] => ([], [])
  | char :: rest =>
    if char.utf8Size ≤ room then
      let (taken, rest) := takeBytes (room - char.utf8Size) rest
      (char :: taken, rest)
    else ([], char :: rest)

/-- The chunks of a text that can be read, at most so many, and whether one follows that cannot. -/
def readableChunks : Nat → List Char → List Char × Bool
  | 0, _ => ([], false)
  | _, [] => ([], false)
  | bound + 1, text =>
    let (chunk, rest) := takeBytes chunkSize text
    if chunk.all isReadable then
      let (more, isCut) := readableChunks bound rest
      (chunk ++ more, isCut)
    else ([], true)

/-- A text as far as it can be read, without a mark of its encoding, and whether it is cut off where
it cannot. -/
def readable (text : String) : List Char × Bool :=
  let chars := text.toList
  let (content, isCut) := readableChunks (chars.length + 1) chars
  match content with
  | first :: rest => if first = orderMark then (rest, isCut) else (content, isCut)
  | [] => ([], isCut)

end QueryTree.Yaml
