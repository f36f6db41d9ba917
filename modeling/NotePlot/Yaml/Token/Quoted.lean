import NotePlot.Yaml.Token.Plain
import NotePlot.Text.Basic
/-! Quoted scalars: between single quotes, where a quote is written twice, or between double quotes,
with escapes. -/
namespace NotePlot.Yaml.Quoted

open Text

/-- What an escape of one letter stands for. -/
def named : List (Char × Nat) := [
  ('0', 0x0), ('a', 0x7), ('b', 0x8), ('t', 0x9), ('\t', 0x9), ('n', 0xA), ('v', 0xB), ('f', 0xC),
  ('r', 0xD), ('e', 0x1B), (' ', 0x20), ('"', 0x22), ('\\', 0x5C), ('/', 0x2F), ('N', 0x85),
  ('_', 0xA0), ('L', 0x2028), ('P', 0x2029)]

/-- The letters of escapes by code point, with their numbers of digits. -/
def numbered : List (Char × Nat) := [('x', 2), ('u', 4), ('U', 8)]

/-- The character with a code point of at most 32 bits. Half of a pair of surrogates is none by
itself, and is refused like a number beyond all code points. -/
def character (n : Nat) : Read Char :=
  if n.isValidChar then .ok (Char.ofNat n)
  else if n < 0x80000000 then .error (.failure (.range .character))
  else .error (.failure .overflow)

def isBlank (c : Char) : Bool := c = ' ' || c = '\t'

/-- Line breaks and the blanks around them. A line must not look like a mark between documents. -/
def breaks : Nat → Cursor → Read (List Char × Cursor)
  | 0, c => .ok ([], c)
  | fuel + 1, c => do
    if c.meetsDocumentMark then malformed
    let c := c.skipWhile isBlank
    match c.break? with
    | none => return ([], c)
    | some (x, c) => do
      let (xs, c) ← breaks fuel c
      return (x :: xs, c)

/-- An escape after its backslash. -/
def escape (c : Cursor) : Read (List Char × Cursor) :=
  match c.head? with
  | none => malformed
  | some x =>
    match named.lookup x, numbered.lookup x with
    | some n, _ => .ok ([Char.ofNat n], c.next)
    | none, some width => do
      let ds := c.next.rest.take width
      if ds.length < width || !ds.all isHexDigit then malformed
      return ([← character (ofDigits 16 (ds.map hexDigit))], c.skip (width + 1))
    | none, none =>
      match c.break? with
      | some (_, c) => breaks c.steps c
      | none => malformed

/-- Characters that stand for themselves between quotes of either kind. -/
def isText (c : Char) : Bool :=
  !(c = '\'' || c = '"' || c = '\\' || isBlank c || isBreak c)

/-- The characters up to a blank, a break or the closing quote. -/
def word (quote : Char) : Nat → Cursor → Read (List Char × Cursor)
  | 0, c => .ok ([], c)
  | fuel + 1, c => do
    let (text, c) := c.span isText
    let special : Option (Read (List Char × Cursor)) :=
      match c.head? with
      | none => none
      | some x =>
        if quote = '\'' then
          if x = '\'' then if c.peek 1 = some '\'' then some (.ok (['\''], c.skip 2)) else none
          else if x = '"' || x = '\\' then some (.ok ([x], c.next)) else none
        else if x = '\'' then some (.ok ([x], c.next))
        else if x = '\\' then some (escape c.next) else none
    match special with
    | none => return (text, c)
    | some r => do
      let (here, c) ← r
      let (later, c) ← word quote fuel c
      return (text ++ here ++ later, c)

/-- The blanks between two words, or the breaks between two lines. -/
def gap (c : Cursor) : Read (List Char × Cursor) := do
  let (blanks, c) := c.span isBlank
  match c.head? with
  | none => malformed
  | some _ =>
    match c.break? with
    | none => return (blanks, c)
    | some (first, c) => do
      let (later, c) ← breaks c.steps c
      return (Plain.folded first later, c)

def words (quote : Char) : Nat → Cursor → Read (List Char × Cursor)
  | 0, _ => malformed
  | fuel + 1, c => do
    let (text, c) ← word quote c.steps c
    if c.head? = some quote then return (text, c.next)
    let (between, c) ← gap c
    let (later, c) ← words quote fuel c
    return (text ++ between ++ later, c)

/-- Reads a scalar whose opening quote comes next. -/
def read (quote : Char) (c : Cursor) : Read (List Char × Cursor) :=
  words quote c.next.steps c.next

end NotePlot.Yaml.Quoted
