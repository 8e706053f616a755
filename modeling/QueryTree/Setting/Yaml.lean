import QueryTree.Setting.Value
import QueryTree.Yaml.Scalar
import QueryTree.Yaml.Tree

/-!
# Settings in YAML

The values of a document, with the entries of other mappings where they are merged into one. The
keys of the outermost mapping are names, those of the others are values of any kind that is not a
collection. A document whose references make it much larger than its text is refused.
-/

namespace QueryTree

/-- How many values were read, and how many of them because of a reference. -/
structure ReferenceCount where
  read : Nat
  referred : Nat
  deriving DecidableEq, Repr

namespace ReferenceCount

/-- Up to so many values, nearly all of them may come from references. -/
def freeReads : Nat := 400000

/-- From so many values on, a tenth of them may come from references. -/
def boundReads : Nat := 4000000

/-- Whether too many values come from references. The share that may goes down evenly between the
two bounds, from 99 to 10 percent. -/
def isExcessive (count : ReferenceCount) : Bool :=
  let range := boundReads - freeReads
  let above := min count.read boundReads - freeReads
  100 < count.referred && 1000 < count.read &&
    count.read * (99 * range - 89 * above) < count.referred * (100 * range)

end ReferenceCount

namespace SettingValue

/-- Reading of values, which counts them. -/
abbrev ValueReading := StateT ReferenceCount (Except Yaml.Fault)

/-- Count a value, which may come from a reference. -/
def countValue (isReferred : Bool) : ValueReading Unit := do
  modify fun count => ⟨count.read + 1, count.referred + if isReferred then 1 else 0⟩
  if (← get).isExcessive then throw .excessiveReferences

def ofScalar : YamlScalar → SettingValue
  | .null => .null
  | .truth value => .truth value
  | .whole value => .whole value
  | .real value => .real value
  | .unbounded name => .unbounded name
  | .timestamp text => .string text
  | .text content => .string content

def keyOfScalar : YamlScalar → SettingKey
  | .null => .null
  | .truth value => .truth value
  | .whole value => .whole value
  | .real value => .real value
  | .unbounded name => .unbounded name
  | .timestamp text => .text text
  | .text content => .text content

def nameOfScalar (text : String) : YamlScalar → SettingKey
  | .null => .text ""
  | .text content => .text content
  | _ => .text text

/-- Read a key, which must be a scalar. -/
def yamlKey (areNames isReferred : Bool) : YamlTree → ValueReading SettingKey
  | .scalar tag isOpen text => do
    countValue isReferred
    let scalar ← YamlScalar.resolve tag isOpen text
    return if areNames then nameOfScalar text scalar else keyOfScalar scalar
  | .reference target => do
    countValue isReferred
    yamlKey areNames true target
  | _ => throw .unsuitableKey

/-- Whether a key asks for the entries of other mappings. -/
def isMergeKey : YamlTree → Bool
  | .scalar tag isOpen text => text = "<<" && (isOpen || tag = YamlScalar.tagStart ++ "merge")
  | _ => false

mutual

def ofTree (isReferred : Bool) : YamlTree → ValueReading SettingValue
  | .scalar tag isOpen text => do
    countValue isReferred
    return ofScalar (← YamlScalar.resolve tag isOpen text)
  | .sequence items => do
    countValue isReferred
    return .list (← yamlItems isReferred items)
  | .mapping entries => do
    countValue isReferred
    return .table (← yamlEntries false isReferred entries)
  | .reference target => do
    countValue isReferred
    ofTree true target

def yamlItems (isReferred : Bool) : List YamlTree → ValueReading (List SettingValue)
  | [] => return []
  | item :: items => do
    let first ← ofTree isReferred item
    let others ← yamlItems isReferred items
    return first :: others

/-- Read the entries of a mapping, of which the last one of a key counts. -/
def yamlEntries (areNames isReferred : Bool) :
    List (YamlTree × YamlTree) → ValueReading (List (SettingKey × SettingValue))
  | [] => return []
  | (key, value) :: entries => do
    let first ←
      if isMergeKey key then mergedEntries areNames isReferred value
      else do
        let key ← yamlKey areNames isReferred key
        let value ← ofTree isReferred value
        pure [(key, value)]
    let others ← yamlEntries areNames isReferred entries
    return first ++ others

/-- Read the entries that a value adds to a mapping: those of a mapping, or of several ones, of
which the first one counts. -/
def mergedEntries (areNames isReferred : Bool) :
    YamlTree → ValueReading (List (SettingKey × SettingValue))
  | .sequence items => mergedItems areNames isReferred items
  | .mapping entries => do
    countValue isReferred
    yamlEntries areNames isReferred entries
  | .reference (.mapping entries) => do
    countValue isReferred
    countValue true
    yamlEntries areNames true entries
  | _ => throw .unsuitableMerge

/-- Read the entries of several mappings, the last one first. -/
def mergedItems (areNames isReferred : Bool) :
    List YamlTree → ValueReading (List (SettingKey × SettingValue))
  | [] => return []
  | .mapping entries :: items => do
    let others ← mergedItems areNames isReferred items
    countValue isReferred
    return others ++ (← yamlEntries areNames isReferred entries)
  | .reference (.mapping entries) :: items => do
    let others ← mergedItems areNames isReferred items
    countValue isReferred
    countValue true
    return others ++ (← yamlEntries areNames true entries)
  | _ => throw .unsuitableMerge

end

/-- Read the outermost value of a document, which has to be a mapping unless it is null. -/
def yamlRoot : YamlTree → ValueReading SettingValue
  | .mapping entries => do
    countValue false
    countValue false
    return .table (← yamlEntries true false entries)
  | .scalar tag isOpen text => do
    match ← YamlScalar.resolve tag isOpen text with
    | .null => return .null
    | _ => throw .notMapping
  | _ => throw .notMapping

/-- Read the first document of a text in YAML. -/
def ofYaml? (text : String) : Option SettingValue :=
  match YamlTree.read text with
  | .ok none => some .null
  | .ok (some tree) =>
    match (yamlRoot tree).run ⟨0, 0⟩ with
    | .ok (value, _) => some value
    | .error _ => none
  | .error _ => none

end SettingValue

end QueryTree
