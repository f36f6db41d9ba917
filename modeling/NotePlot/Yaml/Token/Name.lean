import NotePlot.Yaml.Cursor
import NotePlot.Text.Basic
import NotePlot.Decimal.Numeral
/-! Names in YAML: anchors and aliases, tags, and the directives that come before a document. -/
namespace NotePlot.Yaml.Name

open Text

def isNameChar (c : Char) : Bool := c.isAlphanum || c = '-' || c = '_'

/-- A run of name characters, at least one. -/
def word (c : Cursor) : Read (String × Cursor) :=
  let (cs, c) := c.span isNameChar
  if cs.isEmpty then malformed else .ok (String.ofList cs, c)

/-- Whether an anchor may end here. -/
def endsAnchor : Option Char → Bool
  | none => true
  | some c => endsWord (some c) || "?:,]\x7d%@\x60".toList.contains c

/-- The name of an anchor or alias after its mark. -/
def anchor (c : Cursor) : Read (String × Cursor) := do
  let (name, c) ← word c
  if endsAnchor c.head? then return (name, c) else malformed

/-- A handle: an exclamation mark, or a name between two. -/
def handle (c : Cursor) : Read (String × Cursor) :=
  if c.head? ≠ some '!' then malformed
  else
    let (cs, after) := c.next.span isNameChar
    if c.peek 1 = some ' ' then .ok ("!", c.next)
    else if after.head? = some '!' then .ok (String.ofList ('!' :: cs ++ ['!']), after.next)
    else malformed

def isUriChar (c : Char) : Bool := c.isAlphanum || "-;/?:@&=+$,_.!~*'()[]".toList.contains c

/-- The bytes of consecutive escapes. -/
def escapes : Nat → Cursor → Read (List UInt8 × Cursor)
  | 0, c => .ok ([], c)
  | fuel + 1, c =>
    if c.head? ≠ some '%' then .ok ([], c)
    else do
      let ds := c.next.rest.take 2
      if ds.length < 2 || !ds.all isHexDigit then malformed
      let (bytes, c) ← escapes fuel (c.skip 3)
      return ((ofDigits 16 (ds.map hexDigit)).toUInt8 :: bytes, c)

/-- The characters that the bytes of escapes spell. -/
def escaped (c : Cursor) : Read (List Char × Cursor) := do
  let (bytes, c) ← escapes c.steps c
  match String.fromUTF8? (ByteArray.mk bytes.toArray) with
  | some s => return (s.toList, c)
  | none => malformed

def uriParts : Nat → Cursor → Read (List Char × Cursor)
  | 0, c => .ok ([], c)
  | fuel + 1, c => do
    let (text, c) := c.span isUriChar
    if c.head? ≠ some '%' then return (text, c)
    let (here, c) ← escaped c
    let (later, c) ← uriParts fuel c
    return (text ++ here ++ later, c)

def uri (c : Cursor) : Read (String × Cursor) := do
  let begins := c.head?.any fun x => x = '%' || isUriChar x
  if !begins then malformed
  let (cs, c) ← uriParts c.steps c
  return (String.ofList cs, c)

/-- Whether the word that begins here holds an exclamation mark. -/
def holdsHandle (c : Cursor) : Bool :=
  (c.rest.takeWhile fun x => !endsWordOrSpace (some x)).contains '!'

def tagName (c : Cursor) : Read (TagName × Cursor) :=
  let after := c.next
  if after.head? = some '<' then do
    let (suffix, c) ← uri after.next
    if c.head? ≠ some '>' then malformed
    return (⟨none, suffix⟩, c.next)
  else if endsWord after.head? then .ok (⟨none, "!"⟩, after)
  else if holdsHandle after then do
    let (h, c) ← handle c
    let (suffix, c) ← uri c
    return (⟨some h, suffix⟩, c)
  else do
    let (suffix, c) ← uri after
    return (⟨some "!", suffix⟩, c)

/-- A tag whose exclamation mark comes next. -/
def tag (c : Cursor) : Read (TagName × Cursor) := do
  let (name, c) ← tagName c
  if endsWordOrSpace c.head? then return (name, c) else malformed

def decimal (c : Cursor) : Read (Nat × Cursor) := do
  let (cs, c) := c.span Char.isDigit
  if cs.isEmpty then malformed
  let n ← (Integer.ofDigits cs).mapError fun f => .failure (.range f)
  return (n, c)

def version (c : Cursor) : Read (Directive × Cursor) := do
  let (major, c) ← decimal c.skipSpaces
  if c.head? ≠ some '.' then malformed
  let (_, c) ← decimal c.next
  if endsWordOrSpace c.head? then return (.version major, c) else malformed

def tagDirective (c : Cursor) : Read (Directive × Cursor) := do
  let (h, c) ← handle c.skipSpaces
  if c.head? ≠ some ' ' then malformed
  let (base, c) ← uri c.skipSpaces
  if endsWordOrSpace c.head? then return (.tag h base, c) else malformed

/-- A directive whose percent sign comes next, with its whole line. -/
def directive (c : Cursor) : Read (Directive × Cursor) := do
  let (name, c) ← word c.next
  if !endsWordOrSpace c.head? then malformed
  let (d, c) ← if name = "YAML" then version c
    else if name = "TAG" then tagDirective c
    else pure (.other, c.skipWhile (!isBreak ·))
  let c := c.skipSpaces.skipComment
  if endsLine c.head? then return (d, (c.break?.map Prod.snd).getD c) else malformed

end NotePlot.Yaml.Name
