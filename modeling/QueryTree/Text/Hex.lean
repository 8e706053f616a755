/-!
# Hexadecimal digits

Lower case hexadecimal text of natural numbers, either with a fixed number of digits, as escapes
need it, or with as few digits as possible, as identifiers need it.
-/

namespace QueryTree.Text

/-- The lower case digit of a number below sixteen. -/
def hexDigit (value : Nat) : Char :=
  if value < 10 then Char.ofNat (48 + value) else Char.ofNat (87 + value)

/-- The lowest `width` hexadecimal digits of a number, most significant first. -/
def hexFixed : Nat → Nat → List Char
  | 0, _ => []
  | width + 1, value => hexFixed width (value / 16) ++ [hexDigit (value % 16)]

@[simp] theorem length_hexFixed (width value : Nat) : (hexFixed width value).length = width := by
  induction width generalizing value with
  | zero => rfl
  | succ width ih => simp [hexFixed, ih]

/-- The number of hexadecimal digits that a number below `16 ^ bound` needs, at least one. -/
def hexWidth : Nat → Nat → Nat
  | 0, _ => 1
  | bound + 1, value => if value < 16 then 1 else hexWidth bound (value / 16) + 1

/-- The hexadecimal text of a 64 bit word without leading zeros. -/
def hexMinimal (value : UInt64) : List Char :=
  hexFixed (hexWidth 16 value.toNat) value.toNat

/-- The value of a hexadecimal digit in either case. -/
def hexValue? (digit : Char) : Option Nat :=
  let code := digit.toNat
  if 48 ≤ code ∧ code ≤ 57 then some (code - 48)
  else if 97 ≤ code ∧ code ≤ 102 then some (code - 87)
  else if 65 ≤ code ∧ code ≤ 70 then some (code - 55)
  else none

/-- The number that a list of hexadecimal digits spells, or `none` if one of them is no digit. -/
def hexNumber? (digits : List Char) : Option Nat :=
  digits.foldlM (fun value digit => (hexValue? digit).map (value * 16 + ·)) 0

end QueryTree.Text
