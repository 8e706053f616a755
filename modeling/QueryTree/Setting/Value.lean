import QueryTree.Decimal.Shortest
import QueryTree.Text.Integer
import QueryTree.Text.LowerCase

/-!
# Values of settings

A settings file holds a tree of values. Those that cannot stand for a setting are shown in messages,
on one line and with the entries of tables sorted by their keys.
-/

namespace QueryTree

/-- The key of an entry of a table. -/
inductive SettingKey where
  | null
  | truth (value : Bool)
  | whole (value : Int)
  | real (value : Binary64)
  /-- A number that is infinite or undefined, by its name. -/
  | unbounded (name : String)
  | text (content : String)
  deriving DecidableEq, Repr

/-- A value in a settings file. -/
inductive SettingValue where
  | null
  | string (content : String)
  | truth (value : Bool)
  | whole (value : Int)
  | real (value : Binary64)
  /-- A number that is infinite or undefined, by its name. -/
  | unbounded (name : String)
  | list (items : List SettingValue)
  | table (entries : List (SettingKey × SettingValue))
  deriving Repr

/-- The integer of 64 bits with a sign that has the bits of one without. -/
def signedWord (value : Int) : Int :=
  if (Text.signedBound : Int) ≤ value then value - Text.unsignedBound else value

namespace SettingKey

def name : SettingKey → String
  | .null => ""
  | .truth value => if value then "true" else "false"
  | .whole value => toString (signedWord value)
  | .real value => value.shortest.positional
  | .unbounded name => name
  | .text content => content

def shown : SettingKey → String
  | .null => "<nil>"
  | .truth value => if value then "true" else "false"
  | .whole value => toString value
  | .real value => value.shortest.general
  | .unbounded name => name
  | .text content => content

/-- The place of a kind of keys among the others. -/
def rank : SettingKey → Nat
  | .null => 0
  | .truth _ => 1
  | .real _ | .unbounded _ => 2
  | .whole value => if value < Text.signedBound then 3 else 5
  | .text _ => 4

/-- Whether a floating point number is at most another one. -/
def realLe (first second : Binary64) : Bool :=
  let least := min first.exponent second.exponent
  let scaled (number : Binary64) : Int :=
    let magnitude : Int := (number.significand * Nat.pow 2 (number.exponent - least).toNat : Nat)
    if number.negative then -magnitude else magnitude
  scaled first ≤ scaled second

/-- Whether a key may stand before another one: keys of a kind are next to each other, and within a
kind the lesser one is first. -/
def le (first second : SettingKey) : Bool :=
  if first.rank ≠ second.rank then first.rank < second.rank
  else
    match first, second with
    | .truth first, .truth second => !first || second
    | .whole first, .whole second => first ≤ second
    | .real first, .real second => realLe first second
    | .unbounded name, .real _ => name ≠ "+Inf"
    | .real _, .unbounded name => name = "+Inf"
    | .unbounded first, .unbounded second => first = "NaN" || second = "+Inf" || first = second
    | .text first, .text second => first ≤ second
    | _, _ => true

end SettingKey

namespace SettingValue

/-- The entries of a table in the order of their keys, of which the last one of a key counts. -/
def sortedEntries {α : Type} (entries : List (SettingKey × α)) : List (SettingKey × α) :=
  let latest := entries.foldr
    (fun entry kept => if kept.any (·.1 = entry.1) then kept else entry :: kept) []
  latest.mergeSort fun first second => first.1.le second.1

mutual

def shown : SettingValue → String
  | .null => "<nil>"
  | .string content => content
  | .truth value => if value then "true" else "false"
  | .whole value => toString value
  | .real value => value.shortest.general
  | .unbounded name => name
  | .list items => "[" ++ " ".intercalate (shownItems items) ++ "]"
  | .table entries =>
    "map[" ++ " ".intercalate ((sortedEntries (shownEntries entries)).map fun entry =>
      entry.1.shown ++ ":" ++ entry.2) ++ "]"

def shownItems : List SettingValue → List String
  | [] => []
  | item :: items => shown item :: shownItems items

/-- The entries of a table as they are shown in a message. -/
def shownEntries : List (SettingKey × SettingValue) → List (SettingKey × String)
  | [] => []
  | (key, value) :: entries => (key, shown value) :: shownEntries entries

end

mutual

/-- A value whose tables have names in lower case for keys. Tables within lists stay as they
are. -/
def withLowerNames : SettingValue → SettingValue
  | .table entries => .table (lowerEntries entries)
  | value => value

def lowerEntries : List (SettingKey × SettingValue) → List (SettingKey × SettingValue)
  | [] => []
  | (key, value) :: entries =>
    (.text (Text.lowerText key.name), value.withLowerNames) :: lowerEntries entries

end

/-- The settings of a table by their names in lower case. A file without a value has none. -/
def settings? : SettingValue → Option (List (String × SettingValue))
  | .table entries => some ((lowerEntries entries).map fun (key, value) => (key.name, value))
  | .null => some []
  | _ => none

end SettingValue

end QueryTree
