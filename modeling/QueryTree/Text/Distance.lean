/-!
# Distance of words

The distance of two words is the least number of bytes that have to be inserted, removed or replaced
to turn one into the other. It is computed row by row: a row holds the distances of one beginning of
the first word to all beginnings of the second.
-/

namespace QueryTree.Text

/-- The row after one more byte of the first word, from the distance to the left, the second word
and the row above. -/
def distanceRow (byte : UInt8) : Nat → List UInt8 → List Nat → List Nat
  | left, other :: others, diagonal :: above :: row =>
    let here := if byte = other then diagonal else 1 + min left (min above diagonal)
    left :: distanceRow byte here others (above :: row)
  | left, _, _ => [left]

/-- The last row for two words. -/
def distanceRows (second : List UInt8) : Nat → List Nat → List UInt8 → List Nat
  | _, row, [] => row
  | count, row, byte :: bytes =>
    distanceRows second (count + 1) (distanceRow byte (count + 1) second row) bytes

def distance (first second : String) : Nat :=
  let other := second.toUTF8.toList
  (distanceRows other 0 (List.range (other.length + 1)) first.toUTF8.toList).getLastD 0

end QueryTree.Text
