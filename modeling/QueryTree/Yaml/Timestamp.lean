/-!
# Timestamps in YAML

A plain scalar is a timestamp if it is a date, or a date and a time of day. The date has a year of
four digits; months, days, hours, minutes and seconds have one or two. After a `T` or a `t` the time
ends in a time zone, after blanks it has none.
-/

namespace QueryTree.Yaml.Timestamp

/-- The number at the beginning of a text, of one or two digits. -/
def shortNumber? : List Char → Option (Nat × List Char)
  | [] => none
  | first :: rest =>
    if first.isDigit then
      let value := first.toNat - 48
      match rest with
      | second :: others =>
        if second.isDigit then some (value * 10 + (second.toNat - 48), others)
        else some (value, rest)
      | [] => some (value, [])
    else none

/-- The number of two digits at the beginning of a text. -/
def twoDigits? : List Char → Option (Nat × List Char)
  | first :: second :: rest =>
    if first.isDigit && second.isDigit then
      some ((first.toNat - 48) * 10 + (second.toNat - 48), rest)
    else none
  | _ => none

/-- The rest of a text after a given character. -/
def after? (char : Char) : List Char → Option (List Char)
  | [] => none
  | first :: rest => if first = char then some rest else none

/-- The number below a bound at the beginning of a text. -/
def below? (bound : Nat) (text : List Char) : Option (List Char) :=
  match shortNumber? text with
  | some (value, rest) => if value < bound then some rest else none
  | none => none

def isLeapYear (year : Nat) : Bool :=
  year % 4 == 0 && (year % 100 != 0 || year % 400 == 0)

def daysIn (year month : Nat) : Nat :=
  if month = 2 then (if isLeapYear year then 29 else 28)
  else if [4, 6, 9, 11].contains month then 30
  else 31

/-- The rest of a text after the fraction of a second, if there is one. -/
def afterFraction : List Char → List Char
  | mark :: digit :: rest =>
    if (mark = '.' || mark = ',') && digit.isDigit then rest.dropWhile Char.isDigit
    else mark :: digit :: rest
  | rest => rest

def afterTime? (text : List Char) : Option (List Char) := do
  let rest ← below? 24 text
  let rest ← after? ':' rest
  let rest ← below? 60 rest
  let rest ← after? ':' rest
  let rest ← below? 60 rest
  return afterFraction rest

/-- Whether a text is a time zone: universal time or hours and minutes with a sign. -/
def isZone : List Char → Bool
  | ['Z'] => true
  | sign :: rest =>
    (sign = '+' || sign = '-') &&
      match twoDigits? rest with
      | some (hours, ':' :: rest) =>
        hours ≤ 24 &&
          match twoDigits? rest with
          | some (minutes, []) => minutes ≤ 60
          | _ => false
      | _ => false
  | [] => false

/-- Whether the text after a date completes a timestamp. -/
def isSuffix : List Char → Bool
  | [] => true
  | mark :: rest =>
    if mark = 'T' || mark = 't' then (afterTime? rest).any isZone
    else if mark = ' ' then
      (afterTime? (rest.dropWhile (· = ' '))).any List.isEmpty
    else false

/-- The year, month and day at the beginning of a text. -/
def date? (text : List Char) : Option ((Nat × Nat × Nat) × List Char) := do
  let digits := text.takeWhile Char.isDigit
  guard (digits.length = 4)
  let year := digits.foldl (fun value digit => value * 10 + (digit.toNat - 48)) 0
  let rest ← after? '-' (text.dropWhile Char.isDigit)
  let (month, rest) ← shortNumber? rest
  guard (1 ≤ month && month ≤ 12)
  let rest ← after? '-' rest
  let (day, rest) ← shortNumber? rest
  return ((year, month, day), rest)

end Timestamp

def isTimestamp (text : List Char) : Bool :=
  match Timestamp.date? text with
  | some ((year, month, day), rest) =>
    1 ≤ day && day ≤ Timestamp.daysIn year month && Timestamp.isSuffix rest
  | none => false

end QueryTree.Yaml
