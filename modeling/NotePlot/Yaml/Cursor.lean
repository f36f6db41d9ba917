import NotePlot.Failure
/-! Tokens, the parts that a YAML document is made of, and cursors: a place in a document, with what
follows it and where it stands. -/
namespace NotePlot.Yaml

/-- A tag as written: a suffix, after a handle or in full. -/
structure TagName where
  handle : Option String
  suffix : String

inductive Directive
  | version (major : Nat)
  | tag (handle base : String)
  | other

inductive Token
  | directive (d : Directive)
  | documentStart
  | documentEnd
  | blockSequenceStart
  | blockMappingStart
  | blockEnd
  | flowSequenceStart
  | flowSequenceEnd
  | flowMappingStart
  | flowMappingEnd
  | blockEntry
  | flowEntry
  | key
  | value
  | alias (name : String)
  | anchor (name : String)
  | tag (name : TagName)
  /-- A scalar; it is plain if it stands without quotes and indicators. -/
  | scalar (text : String) (isPlain : Bool)

/-- What keeps a document from being read: that it is no YAML, or a value in it that is in no range,
which is a failure of its own. -/
inductive Fault
  | malformed
  | failure (f : Failure)
deriving DecidableEq

abbrev Read (α : Type) := Except Fault α

def malformed {α : Type} : Read α := .error .malformed

/-- A text without the line feed at its end, if there is one. -/
def withoutFinalFeed (cs : List Char) : List Char :=
  if cs.getLast? = some '\n' then cs.dropLast else cs

def isBreak (c : Char) : Bool :=
  c = '\n' || c = '\r' || c.toNat = 0x85 || c.toNat = 0x2028 || c.toNat = 0x2029

/-- Characters that a document may hold; there are no controls among them but tabs and breaks. -/
def isAllowed (c : Char) : Bool :=
  let n := c.toNat
  n = 9 || n = 10 || n = 13 || (0x20 ≤ n && n ≤ 0x7E) || n = 0x85 || (0xA0 ≤ n && n ≤ 0xFFFD) ||
    0x10000 ≤ n

/-- Whether a line or the document ends here. -/
def endsLine : Option Char → Bool
  | none => true
  | some c => isBreak c

/-- Whether a word ends here. -/
def endsWord : Option Char → Bool
  | none => true
  | some c => c = ' ' || c = '\t' || isBreak c

/-- Whether a word ends here, in places where a tab ends none. -/
def endsWordOrSpace : Option Char → Bool
  | none => true
  | some c => c = ' ' || isBreak c

structure Cursor where
  rest : List Char
  index : Nat
  line : Nat
  column : Nat

namespace Cursor

def start (s : String) : Cursor := ⟨s.toList, 0, 0, 0⟩

/-- The character `n` places on. -/
def peek (c : Cursor) (n : Nat) : Option Char := c.rest[n]?

def head? (c : Cursor) : Option Char := c.rest.head?

/-- The byte order mark takes no column. -/
def next (c : Cursor) : Cursor :=
  match c.rest with
  | [] => c
  | x :: rest =>
    if isBreak x && !(x = '\r' && rest.head? = some '\n') then ⟨rest, c.index + 1, c.line + 1, 0⟩
    else ⟨rest, c.index + 1, c.line, if x.toNat = 0xFEFF then c.column else c.column + 1⟩

def skip : Nat → Cursor → Cursor
  | 0, c => c
  | n + 1, c => skip n c.next

/-- The characters up to the first that fails a test, and the place of that one. -/
def span (p : Char → Bool) (c : Cursor) : List Char × Cursor :=
  let taken := c.rest.takeWhile p
  (taken, c.skip taken.length)

def skipWhile (p : Char → Bool) (c : Cursor) : Cursor := (c.span p).2

def skipSpaces (c : Cursor) : Cursor := c.skipWhile (· = ' ')

/-- Leaves out a comment that begins here. -/
def skipComment (c : Cursor) : Cursor :=
  if c.head? = some '#' then c.skipWhile (!isBreak ·) else c

/-- The break of a line that ends here. Carriage return and line feed make one break; the separators
of lines and paragraphs stay as they are, all other breaks become line feeds. -/
def break? (c : Cursor) : Option (Char × Cursor) :=
  match c.rest with
  | '\r' :: '\n' :: _ => some ('\n', c.skip 2)
  | x :: _ =>
    if !isBreak x then none
    else some (if x.toNat = 0x2028 || x.toNat = 0x2029 then x else '\n', c.next)
  | [] => none

/-- Whether a line begins with three marks and nothing more in their word. -/
def startsWith (marks : List Char) (c : Cursor) : Bool :=
  c.rest.take 3 = marks && endsWord (c.peek 3)

/-- Whether a document begins or ends here. -/
def meetsDocumentMark (c : Cursor) : Bool :=
  c.startsWith ['-', '-', '-'] || c.startsWith ['.', '.', '.']

/-- How many steps can be made from here at most. -/
def steps (c : Cursor) : Nat := c.rest.length + 1

end Cursor
end NotePlot.Yaml
