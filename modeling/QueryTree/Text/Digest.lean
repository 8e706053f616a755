import QueryTree.Text.Hex

/-!
# Digests of short texts

A 64 bit digest of the bytes of a text, computed in four lanes of eight bytes each and mixed at the
end (xxHash64 with seed zero). It serves to number things; nothing relies on it to keep a secret.
-/

namespace QueryTree.Text

namespace Digest

def primeA : UInt64 := 11400714785074694791
def primeB : UInt64 := 14029467366897019727
def primeC : UInt64 := 1609587929392839161
def primeD : UInt64 := 9650029242287828579
def primeE : UInt64 := 2870177450012600261

def rotate (word amount : UInt64) : UInt64 :=
  (word <<< amount) ||| (word >>> (64 - amount))

/-- The word of a list of bytes, the least significant byte first. -/
def wordOf (bytes : List UInt8) : UInt64 :=
  bytes.foldr (fun byte word => word * 256 + byte.toUInt64) 0

def mix (lane word : UInt64) : UInt64 :=
  rotate (lane + word * primeB) 31 * primeA

def merge (result lane : UInt64) : UInt64 :=
  (result ^^^ mix 0 lane) * primeA + primeD

/-- The four lanes. -/
structure Lanes where
  first : UInt64
  second : UInt64
  third : UInt64
  fourth : UInt64

def Lanes.absorb (lanes : Lanes) (bytes : List UInt8) : Lanes where
  first := mix lanes.first (wordOf (bytes.take 8))
  second := mix lanes.second (wordOf ((bytes.drop 8).take 8))
  third := mix lanes.third (wordOf ((bytes.drop 16).take 8))
  fourth := mix lanes.fourth (wordOf ((bytes.drop 24).take 8))

/-- Mix whole blocks of 32 bytes, at most `bound` of them, and give back the bytes that are left. -/
def blocks : Nat → Lanes → List UInt8 → Lanes × List UInt8
  | 0, lanes, bytes => (lanes, bytes)
  | bound + 1, lanes, bytes =>
    if bytes.length < 32 then (lanes, bytes)
    else blocks bound (lanes.absorb bytes) (bytes.drop 32)

def Lanes.result (lanes : Lanes) : UInt64 :=
  let sum := rotate lanes.first 1 + rotate lanes.second 7 + rotate lanes.third 12 +
    rotate lanes.fourth 18
  [lanes.first, lanes.second, lanes.third, lanes.fourth].foldl merge sum

/-- Mix the bytes after the last whole block: by eight, then four, then one at a time. -/
def tail : Nat → UInt64 → List UInt8 → UInt64
  | 0, result, _ => result
  | bound + 1, result, bytes =>
    if 8 ≤ bytes.length then
      let result := rotate (result ^^^ mix 0 (wordOf (bytes.take 8))) 27 * primeA + primeD
      tail bound result (bytes.drop 8)
    else if 4 ≤ bytes.length then
      let result := rotate (result ^^^ (wordOf (bytes.take 4) * primeA)) 23 * primeB + primeC
      tail bound result (bytes.drop 4)
    else
      match bytes with
      | [] => result
      | byte :: bytes =>
        tail bound (rotate (result ^^^ (byte.toUInt64 * primeE)) 11 * primeA) bytes

/-- Spread every bit of the result over the whole word. -/
def finish (result : UInt64) : UInt64 :=
  let result := (result ^^^ (result >>> 33)) * primeB
  let result := (result ^^^ (result >>> 29)) * primeC
  result ^^^ (result >>> 32)

def ofBytes (bytes : List UInt8) : UInt64 :=
  let (start, rest) :=
    if bytes.length < 32 then (primeE, bytes)
    else
      let (lanes, rest) := blocks bytes.length ⟨primeA + primeB, primeB, 0, 0 - primeA⟩ bytes
      (lanes.result, rest)
  finish (tail bytes.length (start + UInt64.ofNat bytes.length) rest)

end Digest

def digest (text : String) : UInt64 :=
  Digest.ofBytes text.toUTF8.toList

def digestText (text : String) : String :=
  String.ofList (hexMinimal (digest text))

end QueryTree.Text
