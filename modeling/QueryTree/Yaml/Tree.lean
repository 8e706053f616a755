import QueryTree.Yaml.Token

/-!
# Trees of YAML

The tokens of a document spell a tree of scalars, sequences and mappings. References are resolved
while the tree is read: a reference holds the node it refers to.
-/

namespace QueryTree

/-- A node of a document. -/
inductive YamlTree where
  /-- A scalar with its tag, which may be empty. Its meaning shows in the text if it `isOpen`. -/
  | scalar (tag : String) (isOpen : Bool) (text : String)
  | sequence (items : List YamlTree)
  | mapping (entries : List (YamlTree × YamlTree))
  | reference (target : YamlTree)
  deriving Repr

namespace Yaml

def emptyScalar : YamlTree := .scalar "" true ""

/-- What is left to read of a document, and what was noted so far. -/
structure TreeReader where
  tokens : List Token
  /-- The error after the last token. -/
  error? : Option ReadError
  /-- What the handles of tags stand for. -/
  handles : List (String × String)
  /-- The nodes that have names, except for those that are still being read. -/
  anchors : Array (String × Option YamlTree)

/-- Reading of trees. -/
abbrev TreeReading := StateT TreeReader Reading

namespace TreeReader

def fail {α : Type} (fault : Fault) (line : Nat) : TreeReading α :=
  throw ⟨fault, line⟩

def peek : TreeReading Token := do
  let reader ← get
  match reader.tokens with
  | token :: _ => return token
  | [] => throw (reader.error?.getD ⟨.nodeContent, 0⟩)

/-- Step over the next token. -/
def skip : TreeReading Unit :=
  modify fun reader => { reader with tokens := reader.tokens.drop 1 }

/-- Step over a token and look at the one after it. -/
def following : TreeReading Symbol := do
  skip
  return (← peek).symbol

/-! ## Properties of nodes -/

/-- The name and the tag of a node. -/
structure Properties where
  anchor : Option String
  tag : Option TagText
  tagLine : Nat

/-- Read the name and the tag of a node, in either order. -/
def properties : TreeReading Properties := do
  let first ← peek
  match first.symbol with
  | .anchor name =>
    skip
    let second ← peek
    match second.symbol with
    | .tag text =>
      skip
      return ⟨some name, some text, second.line⟩
    | _ => return ⟨some name, none, 0⟩
  | .tag text =>
    skip
    match (← peek).symbol with
    | .anchor name =>
      skip
      return ⟨some name, some text, first.line⟩
    | _ => return ⟨none, some text, first.line⟩
  | _ => return ⟨none, none, 0⟩

def fullTag (properties : Properties) : TreeReading String := do
  match properties.tag with
  | none => return ""
  | some ⟨"", rest⟩ => return rest
  | some ⟨handle, rest⟩ =>
    match (← get).handles.lookup handle with
    | some expansion => return expansion ++ rest
    | none => fail .undefinedHandle properties.tagLine

/-- Read a node that has a name, if it has one. Within the node, the name refers to nothing. -/
def naming (anchor : Option String) (read : TreeReading YamlTree) : TreeReading YamlTree := do
  match anchor with
  | none => read
  | some name =>
    let position := (← get).anchors.size
    modify fun reader => { reader with anchors := reader.anchors.push (name, none) }
    let tree ← read
    modify fun reader =>
      { reader with anchors := reader.anchors.setIfInBounds position (name, some tree) }
    return tree

def referTo (name : String) : TreeReading YamlTree := do
  match (← get).anchors.toList.reverse.lookup name with
  | some (some tree) => return .reference tree
  | some none => fail (.selfReference name) 0
  | none => fail (.unknownAnchor name) 0

/-- Whether a scalar shows its meaning: it is plain and without a tag, or its tag says so. -/
def isOpenScalar (tag : String) (isPlain : Bool) : Bool := (tag = "" && isPlain) || tag = "!"

/-! ## Nodes -/

/-- Whether a token ends an entry of a block mapping. -/
def endsBlockEntry (symbol : Symbol) : Bool :=
  symbol = .key || symbol = .value || symbol = .blockEnd

/-- Whether a token ends a part of an entry within braces. -/
def endsFlowEntry (symbol : Symbol) : Bool :=
  symbol = .flowSeparator || symbol = .flowMappingEnd

/-- Whether a token ends a part of an item between brackets. -/
def endsFlowItem (symbol : Symbol) : Bool :=
  symbol = .flowSeparator || symbol = .flowSequenceEnd

mutual

/-- Read a node. In block context it may be a block collection; as a part of an entry it may be a
sequence whose items stand in the column of the key. The bound limits the depth of the reading. -/
def node (inBlock isEntry : Bool) : Nat → TreeReading YamlTree
  | 0 => fail .nodeContent 0
  | bound + 1 => do
    match (← peek).symbol with
    | .reference name =>
      skip
      referTo name
    | _ =>
      let properties ← properties
      let tag ← fullTag properties
      naming properties.anchor (nodeContent inBlock isEntry properties tag bound)

def nodeContent (inBlock isEntry : Bool) (properties : Properties) (tag : String) :
    Nat → TreeReading YamlTree
  | 0 => fail .nodeContent 0
  | bound + 1 => do
    let token ← peek
    match token.symbol with
    | .scalar isPlain text =>
      skip
      return .scalar tag (isOpenScalar tag isPlain) text
    | .flowSequenceStart =>
      skip
      return .sequence (← flowItems true bound)
    | .flowMappingStart =>
      skip
      return .mapping (← flowEntries true bound)
    | symbol =>
      if isEntry && symbol = .blockItem then return .sequence (← levelItems bound)
      else if inBlock && symbol = .blockSequenceStart then
        skip
        return .sequence (← blockItems bound)
      else if inBlock && symbol = .blockMappingStart then
        skip
        return .mapping (← blockEntries bound)
      else if properties.anchor.isSome || tag ≠ "" then return .scalar tag (tag = "") ""
      else fail .nodeContent token.line

/-- Read the items of a block sequence and its end. -/
def blockItems : Nat → TreeReading (List YamlTree)
  | 0 => fail .nodeContent 0
  | bound + 1 => do
    let token ← peek
    if token.symbol = .blockItem then
      let next ← following
      let item ←
        if next = .blockItem || next = .blockEnd then pure emptyScalar
        else node true false bound
      return item :: (← blockItems bound)
    else if token.symbol = .blockEnd then
      skip
      return []
    else fail .blockItem token.line

/-- Read the items of a sequence in the column of the key before it. -/
def levelItems : Nat → TreeReading (List YamlTree)
  | 0 => fail .nodeContent 0
  | bound + 1 => do
    if (← peek).symbol = .blockItem then
      let next ← following
      let item ←
        if next = .blockItem || endsBlockEntry next then pure emptyScalar
        else node true false bound
      return item :: (← levelItems bound)
    else return []

/-- Read the entries of a block mapping and its end. -/
def blockEntries : Nat → TreeReading (List (YamlTree × YamlTree))
  | 0 => fail .nodeContent 0
  | bound + 1 => do
    let token ← peek
    if token.symbol = .key then
      let next ← following
      let key ← if endsBlockEntry next then pure emptyScalar else node true true bound
      let value ← blockValue bound
      return (key, value) :: (← blockEntries bound)
    else if token.symbol = .blockEnd then
      skip
      return []
    else fail .blockKey token.line

def blockValue : Nat → TreeReading YamlTree
  | 0 => fail .nodeContent 0
  | bound + 1 => do
    if (← peek).symbol = .value then
      let next ← following
      if endsBlockEntry next then return emptyScalar else node true true bound
    else return emptyScalar

/-- Read the items between brackets and the closing bracket. An item may be a mapping of one entry
without braces. -/
def flowItems (isFirst : Bool) : Nat → TreeReading (List YamlTree)
  | 0 => fail .nodeContent 0
  | bound + 1 => do
    let token ← peek
    if token.symbol = .flowSequenceEnd then
      skip
      return []
    if !isFirst && token.symbol ≠ .flowSeparator then fail .flowItem token.line
    let symbol ← if isFirst then pure token.symbol else following
    if symbol = .key then
      let next ← following
      let key ←
        if next = .value || endsFlowItem next then do
          skip
          pure emptyScalar
        else node false false bound
      let value ← flowValue endsFlowItem bound
      return .mapping [(key, value)] :: (← flowItems false bound)
    else if symbol = .flowSequenceEnd then
      skip
      return []
    else
      let item ← node false false bound
      return item :: (← flowItems false bound)

/-- Read the entries between braces and the closing brace. -/
def flowEntries (isFirst : Bool) : Nat → TreeReading (List (YamlTree × YamlTree))
  | 0 => fail .nodeContent 0
  | bound + 1 => do
    let token ← peek
    if token.symbol = .flowMappingEnd then
      skip
      return []
    if !isFirst && token.symbol ≠ .flowSeparator then fail .flowKey token.line
    let symbol ← if isFirst then pure token.symbol else following
    if symbol = .key then
      let next ← following
      let key ←
        if next = .value || endsFlowEntry next then pure emptyScalar
        else node false false bound
      let value ← flowValue endsFlowEntry bound
      return (key, value) :: (← flowEntries false bound)
    else if symbol = .flowMappingEnd then
      skip
      return []
    else
      let key ← node false false bound
      return (key, emptyScalar) :: (← flowEntries false bound)

/-- Read the value of an entry between brackets or braces. -/
def flowValue (isEnd : Symbol → Bool) : Nat → TreeReading YamlTree
  | 0 => fail .nodeContent 0
  | bound + 1 => do
    if (← peek).symbol = .value then
      let next ← following
      if isEnd next then return emptyScalar else node false false bound
    else return emptyScalar

end

/-! ## Documents -/

/-- What handles stand for unless a document says otherwise. -/
def standardHandles : List (String × String) := [("!", "!"), ("!!", "tag:yaml.org,2002:")]

/-- Read directives, at most so many, after the version was told or not. -/
def directives (hasVersion : Bool) : Nat → TreeReading Unit
  | 0 => return
  | bound + 1 => do
    let token ← peek
    match token.symbol with
    | .directive (.version major minor) =>
      if hasVersion then fail .repeatedDirective token.line
      if major ≠ 1 || minor ≠ 1 then fail .incompatibleVersion token.line
      skip
      directives true bound
    | .directive (.tag handle expansion) =>
      if ((← get).handles.lookup handle).isSome then fail .repeatedDirective token.line
      modify fun reader => { reader with handles := (handle, expansion) :: reader.handles }
      skip
      directives hasVersion bound
    | _ => return

/-- Whether nothing stands between the marks of a document. -/
def endsDocument : Symbol → Bool
  | .directive _ | .documentStart | .documentEnd | .streamEnd => true
  | _ => false

/-- Whether a document begins with a mark or with directives before it. -/
def marksDocument : Symbol → Bool
  | .directive _ | .documentStart => true
  | _ => false

/-- Read the first document, if there is one. -/
def document : TreeReading (Option YamlTree) := do
  let bound := 4 * (← get).tokens.length + 4
  let first ← peek
  if first.symbol = .streamEnd then return none
  let isMarked := marksDocument first.symbol
  if isMarked then
    directives false bound
    let token ← peek
    if token.symbol ≠ .documentStart then fail .documentStart token.line
    skip
  modify fun reader => { reader with handles := reader.handles ++ standardHandles }
  let isEmpty ← if isMarked then pure (endsDocument (← peek).symbol) else pure false
  let tree ← if isEmpty then pure emptyScalar else node true false bound
  let _ ← peek
  return some tree

end TreeReader

end Yaml

/-- Read the first document of a text, if there is one. -/
def YamlTree.read (text : String) : Yaml.Reading (Option YamlTree) := do
  let (tokens, error?) := Yaml.tokens text
  let (tree?, _) ← Yaml.TreeReader.document.run ⟨tokens, error?, [], #[]⟩
  return tree?

end QueryTree
