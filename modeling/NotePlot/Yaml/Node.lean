import NotePlot.Yaml.Scalar
import NotePlot.Yaml.Token.Scanner
/-! Nodes: what the tokens of a YAML document describe. A node refers to its parts by their places
in a table, so that aliases can lead to any node with an anchor, even to one around them. -/
namespace NotePlot.Yaml

inductive Node
  | scalar (tag : Tag) (text : String)
  | sequence (tag : Tag) (items : List Nat)
  | mapping (tag : Tag) (pairs : List (Nat × Nat))

/-- The nodes of a document by their places, and the place of the first. -/
structure Graph where
  nodes : Array Node
  root : Nat

namespace Node

/-- Where nothing stands, null does. -/
def empty : Node := .scalar .null ""

def tag : Node → Tag
  | scalar t _ | sequence t _ | mapping t _ => t

/-- How many collections may stand inside one another in a document. The reader calls itself for
each of them, and runs out of calls at this depth. The texts of values need no such bound: they are
made of values that are there already, which no document can have nested any deeper. -/
def deepest : Nat := 489

/-- What is known while tokens are read: those to come, the failure behind them, the meaning of
handles, the places of the nodes with an anchor, the nodes so far, and how many collections are
open. -/
structure Context where
  tokens : List Token
  failure : Option Failure
  handles : List (String × String)
  anchors : List (String × Nat)
  nodes : Array Node
  depth : Nat

abbrev Build := StateT Context (Except Fault)

namespace Build

def fail {α : Type} : Build α := fun _ => malformed

/-- The token that comes next, if there is one. -/
def peek : Build (Option Token) := do
  let ctx ← get
  match ctx.tokens, ctx.failure with
  | t :: _, _ => return some t
  | [], none => return none
  | [], some f => throw (.failure f)

def drop : Build Unit := modify fun ctx => { ctx with tokens := ctx.tokens.tail }

/-- Takes a mark that must come next. -/
def expect (p : Token → Bool) : Build Unit := do
  match ← peek with
  | some t => if p t then drop else fail
  | none => fail

/-- Takes a mark if it comes next. -/
def accept (p : Token → Bool) : Build Bool := do
  if (← peek).any p then do drop; return true
  return false

def handleOf (h : String) : Build String := do
  match (← get).handles.lookup h with
  | some base => return base
  | none => fail

/-- The full name of a tag. -/
def fullName (t : TagName) : Build String :=
  match t.handle with
  | some h => do return (← handleOf h) ++ t.suffix
  | none => return t.suffix

/-- The node that an alias names. -/
def aliased (name : String) : Build Nat := do
  match (← get).anchors.lookup name with
  | some n => return n
  | none => fail

/-- An anchor must be new. This shows only where a node begins, so what comes next must be told. -/
def checkAnchor (anchor : Option String) : Build Unit := do
  let _ ← peek
  let anchors := (← get).anchors
  if anchor.any fun name => (anchors.lookup name).isSome then fail

/-- Gives a node a place, to which its anchor, if it has one, leads from now on. -/
def place (anchor : Option String) (node : Node) : Build Nat := do
  let ctx ← get
  let n := ctx.nodes.size
  let named := (anchor.map (·, n)).toList
  set { ctx with nodes := ctx.nodes.push node, anchors := named ++ ctx.anchors }
  return n

/-- A collection has its place before its parts are read, as they may refer to it. -/
def collection (anchor : Option String) (empty : Node) (parts : Build Node) : Build Nat := do
  let n ← place anchor empty
  let depth := (← get).depth
  if deepest ≤ depth then throw (.failure .endless)
  modify fun ctx => { ctx with depth := depth + 1 }
  let node ← parts
  modify fun ctx => { ctx with depth := depth, nodes := ctx.nodes.setIfInBounds n node }
  return n

def sequenceOf (anchor : Option String) (tag : Tag) (items : Build (List Nat)) : Build Nat :=
  collection anchor (.sequence tag []) do return .sequence tag (← items)

def mappingOf (anchor : Option String) (tag : Tag) (pairs : Build (List (Nat × Nat))) : Build Nat :=
  collection anchor (.mapping tag []) do return .mapping tag (← pairs)

/-- The tokens of a node that tell about it: an anchor and a tag, in either order. -/
def decoration : Build (Option String × Option String) := do
  match ← peek with
  | some (.anchor name) =>
    drop
    match ← peek with
    | some (.tag t) => drop; return (some name, some (← fullName t))
    | _ => return (some name, none)
  | some (.tag t) =>
    drop
    match ← peek with
    | some (.anchor name) => drop; return (some name, some (← fullName t))
    | _ => return (none, some (← fullName t))
  | _ => return (none, none)

end Build

/-- The tag of a text; a lone exclamation mark lets its form decide, as if it were plain. -/
def scalarTag (tag : Option String) (text : String) (isPlain : Bool) : Tag :=
  match tag with
  | some "!" => Plain.tag text
  | some t => .ofName t
  | none => if isPlain then Plain.tag text else .str

def collectionTag (tag : Option String) (usual : Tag) : Tag :=
  match tag with
  | some "!" | none => usual
  | some t => .ofName t

def isBlockEntry : Token → Bool
  | .blockEntry => true
  | _ => false

def isBlockEnd : Token → Bool
  | .blockEnd => true
  | _ => false

def isKey : Token → Bool
  | .key => true
  | _ => false

def isValue : Token → Bool
  | .value => true
  | _ => false

def isFlowEntry : Token → Bool
  | .flowEntry => true
  | _ => false

def isSequenceEnd : Token → Bool
  | .flowSequenceEnd => true
  | _ => false

def isMappingEnd : Token → Bool
  | .flowMappingEnd => true
  | _ => false

open Build

/-- Which collections a node may be. -/
inductive Place
  | flow
  | block
  /-- Below a key, where the entries of a sequence need no indentation. -/
  | underKey
deriving DecidableEq

mutual

/-- Reads a node. The first argument bounds the number of steps. -/
def read : Nat → Place → Build Nat
  | 0, _ => fail
  | fuel + 1, position => do
    match ← peek with
    | some (.alias name) => drop; aliased name
    | _ =>
      let (anchor, tag) ← decoration
      content fuel position anchor tag

/-- What stands in a node after its anchor and tag. -/
def content : Nat → Place → Option String → Option String → Build Nat
  | 0, _, _, _ => fail
  | fuel + 1, position, anchor, tag => do
    checkAnchor anchor
    let sequenceTag := collectionTag tag .seq
    let mappingTag := collectionTag tag .map
    match ← peek with
    | some (.scalar text isPlain) =>
      drop
      place anchor (.scalar (scalarTag tag text isPlain) text)
    | some .flowSequenceStart => drop; sequenceOf anchor sequenceTag (flowItems fuel true)
    | some .flowMappingStart => drop; mappingOf anchor mappingTag (flowPairs fuel true)
    | some .blockEntry =>
      if position = .underKey then sequenceOf anchor sequenceTag (indentlessItems fuel)
      else undecorated anchor tag
    | some .blockSequenceStart =>
      if position = .flow then undecorated anchor tag
      else do drop; sequenceOf anchor sequenceTag (blockItems fuel)
    | some .blockMappingStart =>
      if position = .flow then undecorated anchor tag
      else do drop; mappingOf anchor mappingTag (blockPairs fuel)
    | _ => undecorated anchor tag
where
  /-- Nothing stands here, which is enough for a node only if something tells about it. -/
  undecorated (anchor tag : Option String) : Build Nat :=
    if anchor.isSome || tag.isSome then place anchor (.scalar (scalarTag tag "" true) "") else fail

/-- A node, or the empty one before a mark that can follow it. -/
def readUnless : Nat → (Token → Bool) → Place → Build Nat
  | 0, _, _ => fail
  | fuel + 1, ends, position => do
    if (← peek).any ends then place none empty else read fuel position

/-- The value of a key, or the empty node if no colon follows the key. -/
def valueUnless : Nat → (Token → Bool) → Place → Build Nat
  | 0, _, _ => fail
  | fuel + 1, ends, position => do
    if ← accept isValue then readUnless fuel ends position else place none empty

def blockItems : Nat → Build (List Nat)
  | 0 => fail
  | fuel + 1 => do
    if ← accept isBlockEntry then
      let item ← readUnless fuel (fun t => isBlockEntry t || isBlockEnd t) .block
      return item :: (← blockItems fuel)
    expect isBlockEnd
    return []

def indentlessItems : Nat → Build (List Nat)
  | 0 => fail
  | fuel + 1 => do
    if ← accept isBlockEntry then
      let item ← readUnless fuel
        (fun t => isBlockEntry t || isKey t || isValue t || isBlockEnd t) .block
      return item :: (← indentlessItems fuel)
    return []

def blockPairs : Nat → Build (List (Nat × Nat))
  | 0 => fail
  | fuel + 1 => do
    if ← accept isKey then
      let ends := fun t => isKey t || isValue t || isBlockEnd t
      let key ← readUnless fuel ends .underKey
      let value ← valueUnless fuel ends .underKey
      return (key, value) :: (← blockPairs fuel)
    expect isBlockEnd
    return []

def flowItems : Nat → Bool → Build (List Nat)
  | 0, _ => fail
  | fuel + 1, isFirst => do
    if ← accept isSequenceEnd then return []
    if !isFirst then expect isFlowEntry
    if ← accept isKey then
      let item ← mappingOf none .map (flowPair fuel)
      return item :: (← flowItems fuel false)
    if ← accept isSequenceEnd then return []
    let item ← read fuel .flow
    return item :: (← flowItems fuel false)

/-- The pair of a mapping that stands in a sequence without braces. -/
def flowPair : Nat → Build (List (Nat × Nat))
  | 0 => fail
  | fuel + 1 => do
    let ends := fun t => isFlowEntry t || isSequenceEnd t
    let key ← readUnless fuel (fun t => isValue t || ends t) .flow
    let value ← valueUnless fuel ends .flow
    return [(key, value)]

def flowPairs : Nat → Bool → Build (List (Nat × Nat))
  | 0, _ => fail
  | fuel + 1, isFirst => do
    if ← accept isMappingEnd then return []
    if !isFirst then expect isFlowEntry
    let ends := fun t => isFlowEntry t || isMappingEnd t
    if ← accept isKey then
      let key ← readUnless fuel (fun t => isValue t || ends t) .flow
      let value ← valueUnless fuel ends .flow
      return (key, value) :: (← flowPairs fuel false)
    if ← accept isMappingEnd then return []
    let key ← read fuel .flow
    let value ← place none empty
    return (key, value) :: (← flowPairs fuel false)

end

def isDirective : Token → Bool
  | .directive _ => true
  | _ => false

def isDocumentStart : Token → Bool
  | .documentStart => true
  | _ => false

def isDocumentEnd : Token → Bool
  | .documentEnd => true
  | _ => false

/-- Takes over directives. There may be one version, of the first kind, and one tag a handle. -/
def directives : Nat → Bool → List (String × String) → Build (List (String × String))
  | 0, _, _ => fail
  | fuel + 1, hasVersion, handles => do
    match ← peek with
    | some (.directive d) =>
      drop
      match d with
      | .version major =>
        if hasVersion || major ≠ 1 then fail
        directives fuel true handles
      | .tag h base =>
        if (handles.lookup h).isSome then fail
        directives fuel hasVersion ((h, base) :: handles)
      | .other => directives fuel hasVersion handles
    | _ => return handles

/-- The node of a document that has begun. -/
def documentNode (fuel : Nat) : Build Nat := do
  let isOver := fun t => isDirective t || isDocumentStart t || isDocumentEnd t
  match ← peek with
  | none => place none empty
  | some t => if isOver t then place none empty else read fuel .block

def dropDocumentEnds : Nat → Build Unit
  | 0 => pure ()
  | fuel + 1 => do if ← accept isDocumentEnd then dropDocumentEnds fuel

/-- The only document there is, if there is one. -/
def only (fuel : Nat) : Build (Option Nat) := do
  let some first ← peek | return none
  if !(isDirective first || isDocumentStart first) then
    let node ← read fuel .block
    finish
    return some node
  let handles ← directives fuel false []
  expect isDocumentStart
  modify fun ctx => { ctx with handles := handles ++ Tag.usualHandles }
  let node ← documentNode fuel
  finish
  return some node
where
  /-- Nothing but marks of the end may come after a document. Another document is one too many once
  it has begun, after its directives. -/
  finish : Build Unit := do
    dropDocumentEnds fuel
    if (← peek).isSome then
      let _ ← directives fuel false []
      let _ ← peek
      fail

/-- The nodes of the only document that tokens make up, if there is one. -/
def ofTokens (ts : Tokens) : Read (Option Graph) := do
  let start : Context := ⟨ts.known, ts.failure, Tag.usualHandles, [], #[], 0⟩
  let (root, done) ← (only (4 * ts.known.length + 8)).run start
  return root.map (⟨done.nodes, ·⟩)

end Node
end NotePlot.Yaml
