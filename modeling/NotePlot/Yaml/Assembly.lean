import NotePlot.Yaml.Node
import NotePlot.Value.Pairs
/-! Assembly: the values that the nodes of a document stand for. A collection is made before its
parts, which are put into it later, the outer collections first. So a node may be a part of itself,
and of several faults the one that lies less deep is found first. -/
namespace NotePlot.Yaml

/-- What is known while values are made: the nodes, into which others are merged on the way; the
cells that were made; and the nodes whose cells still lack their parts, in the order of making. -/
structure Assembly where
  nodes : Array Node
  cells : Array Cell
  /-- The places of the cells of nodes, by the places of the nodes. -/
  made : Array (Option Nat)
  waiting : List Nat
  /-- How many steps mergers can take at most. -/
  bound : Nat

namespace Assembly

abbrev Make := StateT Assembly (Except Fault)

/-- All nodes called NaN share one cell, so that they are one key. -/
def sharedNaN : Nat := 0

def start (g : Graph) : Assembly where
  nodes := g.nodes
  cells := #[.scalar (.float (0.0 / 0.0))]
  made := g.nodes.map fun _ => none
  waiting := []
  bound := (g.nodes.foldl (fun n node => n + pairs node) 2) *
    (g.nodes.foldl (fun n node => n + items node) 4)
where
  pairs : Node → Nat
    | .mapping _ ps => ps.length
    | _ => 0
  items : Node → Nat
    | .sequence _ is => is.length
    | _ => 0

def nodeAt (n : Nat) : Make Node := do return (← get).nodes[n]?.getD .empty

/-- The pairs of a mapping; no other node has any. -/
def pairsAt (n : Nat) : Make (List (Nat × Nat)) := do
  match ← nodeAt n with
  | .mapping _ pairs => return pairs
  | _ => return []

def setPairs (n : Nat) (pairs : List (Nat × Nat)) : Make Unit := do
  let tag := (← nodeAt n).tag
  modify fun s => { s with nodes := s.nodes.setIfInBounds n (.mapping tag pairs) }

def hasTag (tag : Tag) (n : Nat) : Make Bool := do return (← nodeAt n).tag = tag

def addCell (c : Cell) : Make Nat := do
  let s ← get
  set { s with cells := s.cells.push c }
  return s.cells.size

/-- The text of a node; a mapping has that of the node under its first value key, which may lead
back to the mapping. -/
def textAt : Nat → Nat → Make String
  | 0, _ => throw (.failure .endless)
  | fuel + 1, n => do
    match ← nodeAt n with
    | .scalar _ text => return text
    | .sequence .. => throw .malformed
    | .mapping _ pairs =>
      match ← pairs.findM? fun (k, _) => hasTag .value k with
      | some (_, v) => textAt fuel v
      | none => throw .malformed

/-- Makes a scalar. A timestamp can only be read from a text in its own place. -/
def scalarCell (tag : Tag) (n : Nat) : Make Nat := do
  let text ← textAt ((← get).nodes.size + 1) n
  match tag, ← nodeAt n with
  | .timestamp, .mapping .. => throw (.failure .wrongKind)
  | .float, _ =>
    if Scalar.namesNaN text then return sharedNaN
    addCell (.scalar (← Scalar.float text))
  | _, _ => addCell (.scalar (← Scalar.ofText tag text))

/-- Makes a collection that lacks its parts. -/
def emptyCell (c : Cell) (n : Nat) : Make Nat := do
  modify fun s => { s with waiting := s.waiting ++ [n] }
  addCell c

/-- The cell of a node, made if there is none yet. -/
def cellOf (n : Nat) : Make Nat := do
  match (← get).made[n]?.join with
  | some place => return place
  | none =>
    let tag := (← nodeAt n).tag
    let place ← match tag with
      | .seq | .omap | .pairs => emptyCell (.list []) n
      | .map => emptyCell (.map []) n
      | .set => emptyCell (.set []) n
      | .merge | .value | .other => throw .malformed
      | _ => scalarCell tag n
    modify fun s => { s with made := s.made.setIfInBounds n (some place) }
    return place

/-- The place of the first merge key from a place on, with the node that it merges. -/
def findMerge : Nat → List (Nat × Nat) → Make (Option (Nat × Nat))
  | _, [] => return none
  | i, (k, v) :: rest => do
    if ← hasTag .merge k then return some (i, v) else findMerge (i + 1) rest

/-- Takes the first merge key from a place on out of a mapping. -/
def takeMerge (n i : Nat) : Make (Option (Nat × Nat)) := do
  let pairs ← pairsAt n
  let found ← findMerge i (pairs.drop i)
  match found with
  | some (j, _) => setPairs n (pairs.eraseIdx j)
  | none => pure ()
  return found

/-- A value key becomes the text that it is written with. -/
def settleKey (k : Nat) : Make Unit := do
  match ← nodeAt k with
  | .scalar .value text => put (.scalar .str text)
  | .sequence .value items => put (.sequence .str items)
  | .mapping .value pairs => put (.mapping .str pairs)
  | _ => pure ()
where
  put (node : Node) : Make Unit :=
    modify fun s => { s with nodes := s.nodes.setIfInBounds k node }

mutual

/-- Replaces the merge keys of a mapping by the pairs that they merge, which come first. The first
argument bounds the steps. -/
def flatten : Nat → Nat → Make Unit
  | 0, _ => throw .malformed
  | fuel + 1, n => do
    let merged ← mergedFrom fuel n 0
    let pairs := merged ++ (← pairsAt n)
    setPairs n pairs
    pairs.forM fun (k, _) => settleKey k

/-- The pairs merged by the keys from a place on. -/
def mergedFrom : Nat → Nat → Nat → Make (List (Nat × Nat))
  | 0, _, _ => throw .malformed
  | fuel + 1, n, i => do
    match ← takeMerge n i with
    | none => return []
    | some (j, source) =>
      let pairs ← match ← nodeAt source with
        | .mapping .. => mergedMapping fuel source
        | .sequence _ items => mergedItems fuel items
        | .scalar .. => throw .malformed
      return pairs ++ (← mergedFrom fuel n j)

def mergedMapping : Nat → Nat → Make (List (Nat × Nat))
  | 0, _ => throw .malformed
  | fuel + 1, n => do
    match ← nodeAt n with
    | .mapping .. => flatten fuel n; pairsAt n
    | _ => throw .malformed

/-- Of several mappings the last one's pairs come first. -/
def mergedItems : Nat → List Nat → Make (List (Nat × Nat))
  | _, [] => return []
  | 0, _ => throw .malformed
  | fuel + 1, n :: rest => do
    let pairs ← mergedMapping fuel n
    return (← mergedItems fuel rest) ++ pairs

end

/-- An entry of a mapping: the place of its key, the key, and the place of its value. -/
structure Entry where
  place : Nat
  key : Scalar
  value : Nat

def Entry.hasKeyOf (a b : Entry) : Bool := a.place = b.place || a.key.isSameKey b.key

/-- Adds an entry; of entries with one key the first key and the last value count. -/
def putEntry (es : List Entry) (e : Entry) : List Entry :=
  if es.any (·.hasKeyOf e) then es.map fun x => if x.hasKeyOf e then { x with value := e.value } else x
  else es ++ [e]

/-- Makes the entries of a mapping. Only scalars can be keys. -/
def entriesOf : List (Nat × Nat) → List Entry → Make (List Entry)
  | [], es => return es
  | (k, v) :: rest, es => do
    let place ← cellOf k
    match (← get).cells[place]? with
    | some (.scalar key) => entriesOf rest (putEntry es ⟨place, key, ← cellOf v⟩)
    | _ => throw .malformed

def entriesAt (n : Nat) : Make (List Entry) := do
  flatten (← get).bound n
  entriesOf (← pairsAt n) []

/-- Makes a pair of a mapping with nothing else in it. -/
def soleEntry (n : Nat) : Make Nat := do
  match ← nodeAt n with
  | .mapping _ [(k, v)] =>
    let key ← cellOf k
    addCell (.tuple [key, ← cellOf v])
  | _ => throw .malformed

/-- The cell of a node with its parts. -/
def filled (n : Nat) : Make Cell := do
  let node ← nodeAt n
  match node.tag, node with
  | .seq, .sequence _ items => return .list (← items.mapM cellOf)
  | .omap, .sequence _ items | .pairs, .sequence _ items => return .list (← items.mapM soleEntry)
  | .map, .mapping .. => return .map ((← entriesAt n).map fun e => (e.key, e.value))
  | .set, .mapping .. => return .set ((← entriesAt n).map (·.key))
  | _, _ => throw .malformed

/-- Puts the parts into the cells that lack them, one after the other. -/
def fillAll : Nat → Make Unit
  | 0 => return
  | fuel + 1 => do
    match (← get).waiting with
    | [] => return
    | n :: rest =>
      modify fun s => { s with waiting := rest }
      let cell ← filled n
      let place ← cellOf n
      modify fun s => { s with cells := s.cells.setIfInBounds place cell }
      fillAll fuel

/-- The value of the root of a document. -/
def value (g : Graph) : Read Value := do
  let (place, done) ← (all.run (start g))
  return Value.ofCells done.cells place
where
  all : Make Nat := do
    let place ← cellOf g.root
    fillAll (g.nodes.size + 1)
    return place

end Assembly

/-- A way to read documents: the value that each of them holds. -/
abbrev Reader := String → Read Value

/-- The value of a document; an empty one holds null. -/
def read : Reader := fun s => do
  match ← Node.ofTokens (← tokens s) with
  | some graph => Assembly.value graph
  | none => return .null

/-- What a document holds is null, or the value of the first cell that was made for it. -/
theorem read_eq_ok {s : String} {v : Value} (h : read s = .ok v) : v = .null ∨
    ∃ graph place done, (Assembly.value.all graph).run (Assembly.start graph) = .ok (place, done) ∧
      v = Value.ofCells done.cells place := by
  have bind {α β : Type} {x : Read α} {f : α → Read β} {b : β} (h : (x >>= f) = .ok b) :
      ∃ a, x = .ok a ∧ f a = .ok b := by
    cases x with
    | ok a => exact ⟨a, rfl, h⟩
    | error _ => cases h
  obtain ⟨ts, -, h⟩ := bind h
  obtain ⟨graph?, -, h⟩ := bind h
  cases graph? with
  | none =>
    cases h
    exact .inl rfl
  | some graph =>
    obtain ⟨⟨place, done⟩, hrun, h⟩ := bind h
    cases h
    exact .inr ⟨graph, place, done, hrun, rfl⟩

end NotePlot.Yaml
