import QueryTree.Json.Value

/-!
# Characters of JSON text

Blanks between tokens, and the escapes that stand for characters within strings.
-/

namespace QueryTree.JsonText

/-- Whether a character may stand between tokens. -/
def isBlank (char : Char) : Bool :=
  char = ' ' || char = '\t' || char = '\n' || char = '\r'

def skipBlanks (text : List Char) : List Char := text.dropWhile isBlank

/-- The character of a code point, or the replacement character if there is none. -/
def charOf (code : Nat) : Char :=
  if code.isValidChar then Char.ofNat code else '�'

/-- Whether a number is the first or second half of a pair that stands for one character. -/
def isSurrogate (code : Nat) : Bool := 0xD800 ≤ code && code ≤ 0xDFFF

/-- Whether two numbers are the halves of a pair that stands for one character. -/
def isPair (high low : Nat) : Bool :=
  0xD800 ≤ high && high < 0xDC00 && 0xDC00 ≤ low && low ≤ 0xDFFF

/-- The character of two halves, or the replacement character if they are no pair. -/
def pairOf (high low : Nat) : Char :=
  if isPair high low then charOf ((high - 0xD800) * 0x400 + (low - 0xDC00) + 0x10000) else '�'

/-- The character that a letter after a backslash stands for. -/
def escaped? (letter : Char) : Option Char :=
  [('"', '"'), ('\\', '\\'), ('/', '/'), ('b', '\x08'), ('f', '\x0C'), ('n', '\n'), ('r', '\r'),
    ('t', '\t')].lookup letter

end QueryTree.JsonText
