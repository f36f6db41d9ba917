import NotePlot.Yaml.Cursor
/-! Plain scalars: texts without quotes, over one line or more. -/
namespace NotePlot.Yaml.Plain

/-- The marks that end a plain scalar inside brackets or braces. -/
def isFlowMark (c : Char) : Bool := c = ',' || c = '[' || c = ']' || c = '\x7b' || c = '\x7d'

/-- Whether a colon before this stands for itself. -/
def isColonText (inFlow : Bool) (after : Option Char) : Bool :=
  !(endsWord after || (inFlow && after.any isFlowMark))

/-- How many characters of a line belong to a plain scalar. -/
def length (inFlow : Bool) : List Char → Nat
  | [] => 0
  | c :: cs =>
    if endsWord (some c) then 0
    else if c = ':' && !isColonText inFlow cs.head? then 0
    else if inFlow && (c = '?' || isFlowMark c) then 0
    else length inFlow cs + 1

/-- What stands between two lines of a plain scalar. -/
structure Gap where
  /-- The text for the gap; there is none where a document begins or ends. -/
  text : List Char
  after : Cursor
  /-- Whether a line was broken. -/
  broken : Bool

/-- The breaks after the first, with spaces left out. There is no answer where a document begins or
ends. -/
def laterBreaks : Nat → Cursor → Option (List Char) × Cursor
  | 0, c => (some [], c)
  | fuel + 1, c =>
    if c.head? = some ' ' then laterBreaks fuel c.next
    else match c.break? with
      | none => (some [], c)
      | some (x, c) =>
        if c.meetsDocumentMark then (none, c)
        else
          let (xs, c) := laterBreaks fuel c
          (xs.map (x :: ·), c)

/-- One break folds into a space; of more, the first is left out. -/
def folded (first : Char) (later : List Char) : List Char :=
  if first ≠ '\n' then first :: later else if later.isEmpty then [' '] else later

def gap (c : Cursor) : Gap :=
  let (spaces, c) := c.span (· = ' ')
  match c.break? with
  | none => ⟨spaces, c, false⟩
  | some (first, c) =>
    if c.meetsDocumentMark then ⟨[], c, true⟩
    else match laterBreaks c.steps c with
      | (some later, c) => ⟨folded first later, c, true⟩
      | (none, c) => ⟨[], c, true⟩

/-- Reads on after a gap, up to a comment, a mark, or a line that is not indented enough. The last
part tells whether a line was broken after the scalar. -/
def readAfter (inFlow : Bool) (indent : Int) :
    Nat → List Char → Bool → Cursor → List Char × Bool × Cursor
  | 0, _, broken, c => ([], broken, c)
  | fuel + 1, before, broken, c =>
    let n := if c.head? = some '#' then 0 else length inFlow c.rest
    if n = 0 then ([], broken, c)
    else
      let chunk := c.rest.take n
      let g := gap (c.skip n)
      let (more, broken, after) :=
        if g.text.isEmpty || g.after.head? = some '#' || (!inFlow && g.after.column < indent) then
          ([], g.broken, g.after)
        else readAfter inFlow indent fuel g.text g.broken g.after
      (before ++ chunk ++ more, broken, after)

def read (inFlow : Bool) (indent : Int) (c : Cursor) : List Char × Bool × Cursor :=
  readAfter inFlow indent c.steps [] false c

end NotePlot.Yaml.Plain
