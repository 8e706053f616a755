/-!
# Camel case

A name is brought into camel case by dropping all but letters and digits. A letter after a
separator or a digit becomes a capital; any other character that is dropped just disappears.
-/

namespace QueryTree.Text

/-- Whether a character is white space. -/
def isSpace (char : Char) : Bool :=
  let code := char.toNat
  (0x09 ≤ code && code ≤ 0x0D) || (0x2000 ≤ code && code ≤ 0x200A) ||
    [0x20, 0x85, 0xA0, 0x1680, 0x2028, 0x2029, 0x202F, 0x205F, 0x3000].contains code

/-- A text without the white space around it. -/
def trimSpace (chars : List Char) : List Char :=
  ((chars.dropWhile isSpace).reverse.dropWhile isSpace).reverse

/-- Whether a character separates the parts of a name. -/
def isSeparator (char : Char) : Bool :=
  char = '_' || char = ' ' || char = '-' || char = '.'

/-- The letters and digits of a name, with a capital where the next part begins. -/
def joinParts (capital : Bool) : List Char → List Char
  | [] => []
  | char :: rest =>
    if char.isAlpha then (if capital then char.toUpper else char) :: joinParts false rest
    else if char.isDigit then char :: joinParts true rest
    else joinParts (isSeparator char) rest

/-- The characters of a name that count: without white space around them, and an identifier as a
word like any other. -/
def nameChars (name : String) : List Char :=
  let chars := trimSpace name.toList
  if chars = ['I', 'D'] then ['i', 'd'] else chars

/-- A name in camel case, beginning with a capital. -/
def upperCamel (name : String) : String :=
  String.ofList (joinParts true (nameChars name))

/-- A name in camel case, beginning in lower case. -/
def lowerCamel (name : String) : String :=
  match nameChars name with
  | [] => ""
  | first :: rest => String.ofList (joinParts false (first.toLower :: rest))

end QueryTree.Text
