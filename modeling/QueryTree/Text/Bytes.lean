/-!
# Bytes in text

Bytes are read as UTF-8, where each byte that does not belong to a character stands for the
replacement character, and are written as text in base 64.
-/

namespace QueryTree.Text

def replacement : Char := '�'

/-- How many bytes a character takes, and what its first byte adds to its code. -/
def leadingByte? (byte : Nat) : Option (Nat × Nat) :=
  if byte < 0x80 then some (1, byte)
  else if byte / 0x20 = 6 then some (2, byte % 0x20)
  else if byte / 0x10 = 14 then some (3, byte % 0x10)
  else if byte / 0x08 = 30 then some (4, byte % 0x08)
  else none

/-- Whether a byte goes on with a character. -/
def isTrailingByte (byte : Nat) : Bool := byte / 0x40 = 2

/-- The character at the beginning of bytes and the number of its bytes. Its bytes have to be as few
as possible. -/
def firstChar? : List Nat → Option (Char × Nat)
  | [] => none
  | byte :: rest => do
    let (width, start) ← leadingByte? byte
    let trailing := rest.take (width - 1)
    guard (trailing.length = width - 1 && trailing.all isTrailingByte)
    let code := trailing.foldl (fun code byte => code * 0x40 + byte % 0x40) start
    guard code.isValidChar
    let char := Char.ofNat code
    guard (char.utf8Size = width)
    return (char, width)

/-- The characters of at most so many bytes. -/
def charsOfBytes : Nat → List Nat → List Char
  | 0, _ => []
  | _, [] => []
  | bound + 1, byte :: rest =>
    match firstChar? (byte :: rest) with
    | some (char, width) => char :: charsOfBytes bound (rest.drop (width - 1))
    | none => replacement :: charsOfBytes bound rest

def ofBytes (bytes : List Nat) : String := String.ofList (charsOfBytes bytes.length bytes)

def base64Value? (digit : Char) : Option Nat :=
  if digit.isUpper then some (digit.toNat - 65)
  else if digit.isLower then some (digit.toNat - 71)
  else if digit.isDigit then some (digit.toNat + 4)
  else if digit = '+' then some 62
  else if digit = '/' then some 63
  else none

/-- The bytes of digits of base 64, four digits for three bytes. The last ones may be filled up. -/
def bytesOfDigits? : List Char → Option (List Nat)
  | [] => some []
  | [a, b, '=', '='] => do
    let value := (← base64Value? a) * 64 + (← base64Value? b)
    return [value / 16]
  | [a, b, c, '='] => do
    let value := ((← base64Value? a) * 64 + (← base64Value? b)) * 64 + (← base64Value? c)
    return [value / 1024, value / 4 % 256]
  | a :: b :: c :: d :: rest => do
    let high := (← base64Value? a) * 64 + (← base64Value? b)
    let value := (high * 64 + (← base64Value? c)) * 64 + (← base64Value? d)
    return value / 65536 :: value / 256 % 256 :: value % 256 :: (← bytesOfDigits? rest)
  | _ => none

/-- The bytes of a text in base 64, which may go over several lines. -/
def ofBase64? (text : String) : Option (List Nat) :=
  bytesOfDigits? (text.toList.filter fun char => char ≠ '\n' && char ≠ '\r')

end QueryTree.Text
