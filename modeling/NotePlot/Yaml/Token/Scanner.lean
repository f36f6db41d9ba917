import NotePlot.Yaml.Token.Name
import NotePlot.Yaml.Token.Quoted
import NotePlot.Yaml.Token.Block
/-! The scanner: it cuts a document into tokens. That a token is the key of a mapping shows only at
the colon after it, so a slot is left open before every token that may turn out to be a key. -/
namespace NotePlot.Yaml

/-- A token that may turn out to be a key: its slot and its place. -/
structure KeyCandidate where
  slot : Nat
  /-- Whether nothing but a key may stand there. -/
  required : Bool
  index : Nat
  line : Nat
  column : Nat

structure Scanner where
  cursor : Cursor
  /-- How many brackets and braces are open. -/
  flow : Nat
  /-- The column of the innermost collection in block form, and those around it. -/
  indent : Int
  outer : List Int
  /-- Whether a key may come next. -/
  allowsKey : Bool
  /-- The open candidates by the number of brackets and braces around them. -/
  candidates : List (Nat × KeyCandidate)
  slots : Array (List Token)

namespace Scanner

def start (s : String) : Scanner := ⟨.start s, 0, -1, [], true, [], #[]⟩

def push (s : Scanner) (t : Token) : Scanner := { s with slots := s.slots.push [t] }

def inFlow (s : Scanner) : Bool := s.flow ≠ 0

/-- The innermost candidate. -/
def candidate? (s : Scanner) : Option KeyCandidate := s.candidates.lookup s.flow

def withoutCandidate (s : Scanner) : Scanner :=
  { s with candidates := s.candidates.filter (·.1 ≠ s.flow) }

/-- Gives up the innermost candidate, which must not be required. -/
def dropCandidate (s : Scanner) : Read Scanner :=
  if s.candidate?.any (·.required) then malformed else .ok s.withoutCandidate

/-- How many characters a key may have. -/
def longestKey : Nat := 1024

/-- Whether a candidate is too far back to be a key. -/
def isStale (s : Scanner) (k : KeyCandidate) : Bool :=
  k.line ≠ s.cursor.line || longestKey < s.cursor.index - k.index

/-- Gives up the candidates that are too far back. -/
def dropStale (s : Scanner) : Read Scanner :=
  if s.candidates.any fun (_, k) => s.isStale k && k.required then malformed
  else .ok { s with candidates := s.candidates.filter fun (_, k) => !s.isStale k }

/-- Opens a slot if the token that comes next may be a key. -/
def openSlot (s : Scanner) : Read Scanner :=
  if !s.allowsKey then .ok s
  else do
    let s ← s.dropCandidate
    let c := s.cursor
    let k : KeyCandidate :=
      ⟨s.slots.size, !s.inFlow && s.indent = c.column, c.index, c.line, c.column⟩
    return { s with candidates := (s.flow, k) :: s.candidates, slots := s.slots.push [] }

/-- Closes the collections in block form that are indented deeper than a column. -/
def unwind (column : Int) : Nat → Scanner → Scanner
  | 0, s => s
  | fuel + 1, s =>
    if s.inFlow || s.indent ≤ column then s
    else unwind column fuel
      { s.push .blockEnd with indent := s.outer.headD (-1), outer := s.outer.tail }

def unwindTo (column : Int) (s : Scanner) : Scanner := unwind column (s.outer.length + 1) s

/-- Enters a column, if it lies deeper than the collection here. -/
def deepen? (s : Scanner) (column : Nat) : Option Scanner :=
  if s.indent < column then some { s with indent := column, outer := s.indent :: s.outer }
  else none

/-- Begins a collection in block form at the cursor, if none is there. -/
def beginBlock (s : Scanner) (t : Token) : Read Scanner :=
  if s.inFlow then .ok s
  else if !s.allowsKey then malformed
  else .ok (match s.deepen? s.cursor.column with
    | some s => s.push t
    | none => s)

def advance (s : Scanner) (n : Nat) : Scanner := { s with cursor := s.cursor.skip n }

/-- A token that is a mark of some characters. -/
def mark (s : Scanner) (n : Nat) (t : Token) : Scanner := (s.advance n).push t

/-- Skips blanks, comments and breaks. After a break, outside of brackets, a key may come. -/
def toToken : Nat → Scanner → Scanner
  | 0, s => s
  | fuel + 1, s =>
    let c := s.cursor.skipSpaces.skipComment
    match c.break? with
    | some (_, c) => toToken fuel { s with cursor := c, allowsKey := s.allowsKey || !s.inFlow }
    | none => { s with cursor := c }

/-- A mark between documents, or a directive: everything in block form ends before it. -/
def beforeDocument (s : Scanner) : Read Scanner := do
  return { ← (s.unwindTo (-1)).dropCandidate with allowsKey := false }

def fetchDirective (s : Scanner) : Read Scanner := do
  let s ← s.beforeDocument
  let (d, c) ← Name.directive s.cursor
  return { s with cursor := c }.push (.directive d)

def fetchDocumentMark (s : Scanner) (t : Token) : Read Scanner := do
  return (← s.beforeDocument).mark 3 t

def fetchFlowStart (s : Scanner) (t : Token) : Read Scanner := do
  let s ← s.openSlot
  return { s with flow := s.flow + 1, allowsKey := true }.mark 1 t

def fetchFlowEnd (s : Scanner) (t : Token) : Read Scanner := do
  let s ← s.dropCandidate
  if s.flow = 0 then malformed
  return { s with flow := s.flow - 1, allowsKey := false }.mark 1 t

def fetchFlowEntry (s : Scanner) : Read Scanner := do
  return ({ ← s.dropCandidate with allowsKey := true }).mark 1 .flowEntry

def fetchBlockEntry (s : Scanner) : Read Scanner := do
  let s ← s.beginBlock .blockSequenceStart
  return ({ ← s.dropCandidate with allowsKey := true }).mark 1 .blockEntry

def fetchKey (s : Scanner) : Read Scanner := do
  let s ← s.beginBlock .blockMappingStart
  return ({ ← s.dropCandidate with allowsKey := !s.inFlow }).mark 1 .key

/-- At a colon the candidate before it becomes a key, and begins a mapping if none is there. -/
def fetchValue (s : Scanner) : Read Scanner :=
  match s.candidate? with
  | some k =>
    let s := s.withoutCandidate
    let (s, tokens) := match if s.inFlow then none else s.deepen? k.column with
      | some s => (s, [Token.blockMappingStart, .key])
      | none => (s, [Token.key])
    .ok ({ s with slots := s.slots.setIfInBounds k.slot tokens, allowsKey := false }.mark 1 .value)
  | none => do
    let s ← s.beginBlock .blockMappingStart
    return ({ ← s.dropCandidate with allowsKey := !s.inFlow }).mark 1 .value

/-- A token that a reader of names or scalars makes. -/
def fetchWith (s : Scanner) (r : Cursor → Read (Token × Cursor)) : Read Scanner := do
  let s ← s.openSlot
  let (t, c) ← r s.cursor
  return { s with cursor := c, allowsKey := false }.push t

def fetchBlockScalar (s : Scanner) (folds : Bool) : Read Scanner := do
  let s ← s.dropCandidate
  let (text, c) ← Block.read folds s.indent s.cursor.next
  return { s with cursor := c, allowsKey := true }.push (.scalar (String.ofList text) false)

def fetchPlain (s : Scanner) : Read Scanner := do
  let s ← s.openSlot
  let (text, broken, c) := Plain.read s.inFlow (s.indent + 1) s.cursor
  return { s with cursor := c, allowsKey := broken }.push (.scalar (String.ofList text) true)

def quoted (quote : Char) (c : Cursor) : Read (Token × Cursor) := do
  let (text, c) ← Quoted.read quote c
  return (.scalar (String.ofList text) false, c)

/-- Marks that begin no plain scalar. -/
def isIndicator (c : Char) : Bool := "-?:,[]\x7b\x7d#&*!|>'\"%@\x60".toList.contains c

/-- Whether a plain scalar may begin with a character, given the one after it. -/
def beginsPlain (inFlow : Bool) (x : Char) (after : Option Char) : Bool :=
  !(endsWord (some x) || isIndicator x) ||
    (!endsWord after && (x = '-' || (!inFlow && (x = '?' || x = ':'))))

/-- Reads the token that begins with a character at the cursor. -/
def fetchFrom (s : Scanner) (x : Char) : Read Scanner :=
  let c := s.cursor
  let isAlone := endsWord (c.peek 1)
  if x = '%' ∧ c.column = 0 then s.fetchDirective
  else if c.column = 0 ∧ c.startsWith ['-', '-', '-'] then s.fetchDocumentMark .documentStart
  else if c.column = 0 ∧ c.startsWith ['.', '.', '.'] then s.fetchDocumentMark .documentEnd
  else if x = '[' then s.fetchFlowStart .flowSequenceStart
  else if x = '\x7b' then s.fetchFlowStart .flowMappingStart
  else if x = ']' then s.fetchFlowEnd .flowSequenceEnd
  else if x = '\x7d' then s.fetchFlowEnd .flowMappingEnd
  else if x = ',' then s.fetchFlowEntry
  else if x = '-' ∧ isAlone then s.fetchBlockEntry
  else if x = '?' ∧ (s.inFlow ∨ isAlone) then s.fetchKey
  else if x = ':' ∧ (s.inFlow ∨ isAlone) then s.fetchValue
  else if x = '*' then s.fetchWith fun c => do
    let (name, c) ← Name.anchor c.next
    return (.alias name, c)
  else if x = '&' then s.fetchWith fun c => do
    let (name, c) ← Name.anchor c.next
    return (.anchor name, c)
  else if x = '!' then s.fetchWith fun c => do
    let (name, c) ← Name.tag c
    return (.tag name, c)
  else if x = '|' ∧ !s.inFlow then s.fetchBlockScalar false
  else if x = '>' ∧ !s.inFlow then s.fetchBlockScalar true
  else if x = '\'' ∨ x = '"' then s.fetchWith (quoted x)
  else if beginsPlain s.inFlow x (c.peek 1) then s.fetchPlain
  else malformed

/-- Reads the next token, if there is one. The answer tells whether there was. -/
def fetch (s : Scanner) : Read (Scanner × Bool) := do
  let s ← (toToken s.cursor.steps s).dropStale
  let s := s.unwindTo s.cursor.column
  match s.cursor.head? with
  | none => return (← (s.unwindTo (-1)).dropCandidate, false)
  | some x => return (← s.fetchFrom x, true)

/-- The tokens before the first one that may still turn out to be a key. -/
def decided (s : Scanner) : List Token :=
  let count := s.candidates.foldl (fun n (_, k) => min n k.slot) s.slots.size
  (s.slots.toList.take count).flatten

end Scanner

/-- Tokens in order, and the failure that kept those after them from being read. -/
structure Tokens where
  known : List Token
  failure : Option Failure

namespace Scanner

/-- Reads all tokens from here on. A document that is none can only be told to be none, whatever
comes first in it; but before a failure, there may be tokens that no document has. -/
def run : Nat → Scanner → Read Tokens
  | 0, _ => malformed
  | fuel + 1, s =>
    match s.fetch with
    | .ok (s, true) => run fuel s
    | .ok (s, false) => .ok ⟨s.slots.toList.flatten, none⟩
    | .error .malformed => malformed
    | .error (.failure f) => do return ⟨(← s.dropStale).decided, some f⟩

end Scanner

/-- The tokens of a document; a byte order mark before them counts for nothing. -/
def tokens (s : String) : Read Tokens := do
  if !s.toList.all isAllowed then malformed
  let start := Scanner.start s
  let start := if start.cursor.head? = some '\uFEFF' then start.advance 1 else start
  Scanner.run start.cursor.steps start

end NotePlot.Yaml
