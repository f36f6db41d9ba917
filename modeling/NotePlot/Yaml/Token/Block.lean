import NotePlot.Yaml.Cursor
import NotePlot.Text.Basic
/-! Block scalars: indented lines after a bar, which keeps their breaks, or an angle bracket, which
folds them. -/
namespace NotePlot.Yaml.Block

open Text

/-- What becomes of the breaks at the end. -/
inductive Chomping
  | clip
  | strip
  | keep
deriving DecidableEq

structure Header where
  chomping : Chomping
  /-- How far the lines are indented beyond the collection around them, if that is said. -/
  increment : Option Nat

def chomping? (c : Cursor) : Option Chomping :=
  match c.head? with
  | some '+' => some .keep
  | some '-' => some .strip
  | _ => none

/-- The increment that comes next, if any; it must not be zero. -/
def increment (c : Cursor) : Read (Option Nat × Cursor) :=
  match c.head? with
  | some x =>
    if '0' ≤ x && x ≤ '9' then
      if x = '0' then malformed else .ok (some (x.toNat - 48), c.next)
    else .ok (none, c)
  | none => .ok (none, c)

/-- The indicators of a block scalar, in either order. -/
def indicators (c : Cursor) : Read (Header × Cursor) := do
  let (header, c) ← match chomping? c with
    | some ch => do
      let (n, c) ← increment c.next
      pure (Header.mk ch n, c)
    | none => do
      let (n, c) ← increment c
      match n, chomping? c with
      | some _, some ch => pure (Header.mk ch n, c.next)
      | _, _ => pure (Header.mk .clip n, c)
  if endsWordOrSpace c.head? then return (header, c) else malformed

/-- The rest of a line that may hold a comment and nothing else, with its break. -/
def ignoredLine (c : Cursor) : Read Cursor :=
  let c := c.skipSpaces.skipComment
  if endsLine c.head? then .ok ((c.break?.map Prod.snd).getD c) else malformed

/-- The breaks before the first line with text, and the greatest indentation among the spaces. -/
def indentation : Nat → Nat → Cursor → List Char × Nat × Cursor
  | 0, greatest, c => ([], greatest, c)
  | fuel + 1, greatest, c =>
    match c.break? with
    | some (x, c) =>
      let (xs, greatest, c) := indentation fuel greatest c
      (x :: xs, greatest, c)
    | none =>
      if c.head? = some ' ' then indentation fuel (max greatest c.next.column) c.next
      else ([], greatest, c)

/-- Goes to the indentation, or as near to it as spaces lead. -/
def toIndent (indent : Nat) : Nat → Cursor → Cursor
  | 0, c => c
  | fuel + 1, c =>
    if c.column < indent ∧ c.head? = some ' ' then toIndent indent fuel c.next else c

/-- The breaks of empty lines, up to the text of the next line. -/
def breaks (indent : Nat) : Nat → Cursor → List Char × Cursor
  | 0, c => ([], c)
  | fuel + 1, c =>
    let c := toIndent indent c.steps c
    match c.break? with
    | none => ([], c)
    | some (x, c) =>
      let (xs, c) := breaks indent fuel c
      (x :: xs, c)

def beginsBlank (c : Cursor) : Bool := c.head? = some ' ' || c.head? = some '\t'

/-- The text between two lines, with the empty lines between them; `blank` tells whether the first
line begins with a blank. Only breaks between lines without a blank there are folded. -/
def between (folds blank : Bool) (first : Option Char) (later : List Char) (c : Cursor) :
    List Char :=
  if folds && first = some '\n' && !blank && !beginsBlank c then
    if later.isEmpty then [' '] else later
  else first.toList ++ later

/-- The lines of a scalar from here on, the breaks after them, and what follows. -/
def lines (folds : Bool) (indent : Nat) :
    Nat → Cursor → List Char × Option Char × List Char × Cursor
  | 0, c => ([], none, [], c)
  | fuel + 1, c =>
    let blank := beginsBlank c
    let (text, c) := c.span (!isBreak ·)
    let (first, c) := match c.break? with
      | some (x, c) => (some x, c)
      | none => (none, c)
    let (later, c) := breaks indent c.steps c
    if c.column = indent ∧ c.head?.isSome then
      let (more, rest) := lines folds indent fuel c
      (text ++ between folds blank first later c ++ more, rest)
    else (text, first, later, c)

/-- Breaks at the end: one is kept, or all, or none. -/
def chomped (ch : Chomping) (first : Option Char) (later : List Char) : List Char :=
  match ch with
  | .clip => first.toList
  | .strip => []
  | .keep => first.toList ++ later

/-- Reads a block scalar after its first mark, inside a collection with some indentation. -/
def read (folds : Bool) (outer : Int) (c : Cursor) : Read (List Char × Cursor) := do
  let (header, c) ← indicators c
  let c ← ignoredLine c
  let least := (max (outer + 1) 1).toNat
  let (before, indent, c) := match header.increment with
    | some n =>
      let indent := least + n - 1
      let (bs, c) := breaks indent c.steps c
      (bs, indent, c)
    | none =>
      let (bs, greatest, c) := indentation c.steps 0 c
      (bs, max least greatest, c)
  if c.column = indent ∧ c.head?.isSome then
    let (text, first, later, c) := lines folds indent c.steps c
    return (before ++ text ++ chomped header.chomping first later, c)
  else return (chomped header.chomping none before, c)

end NotePlot.Yaml.Block
