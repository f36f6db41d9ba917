import NotePlot.Chart.Basic
import NotePlot.Value.Written
import NotePlot.Decimal.Binary
import NotePlot.Decimal.Numeral
import NotePlot.Text.Basic
import NotePlot.Failure
import NotePlot.Result.Row
/-! Running sums and means: each row takes on a value made of those of its series up to it, or of as
many of them as a window goes back. -/
namespace NotePlot

namespace Window

open Text

def fault (v : Value) : Outcome Nat := do
  throw (.transform (.window (← v.display)))

/-- The digits that a text begins with. -/
def leading (cs : List Char) : List Char := (trim cs).takeWhile isDigit

/-- Reads a window: a number, or a text that begins with one. What is not above zero is none. -/
def read (v : Value) : Outcome Nat :=
  match v with
  | .scalar .null => .ok 0
  | .scalar (.int n) => .ok n.toNat
  | .scalar (.float x) =>
    if 0.0 < x then
      if x.isInf then .error .overflow else .ok (Binary.ofFloat x).truncate.toNat
    else .ok 0
  | .scalar (.text s) =>
    let ds := leading s.toList
    if ds.isEmpty then fault v else (Integer.ofDigits ds).mapError .range
  | _ => fault v

/-- The texts in a list; a member that is no text is a failure. -/
def texts : List Value → Outcome (List String)
  | [] => .ok []
  | .scalar (.text s) :: rest => do return s :: (← texts rest)
  | _ :: _ => .error .wrongKind

/-- Running sums and means are for some types of chart only, and one excludes the other. -/
def check (c : Chart) (types : Value) : Outcome Unit := do
  let rolling := c.aggregation.rolling.isSet
  if !c.aggregation.cumulative && !rolling then return
  let some allowed := types.members? | throw .wrongKind
  if !c.type.isAmong allowed then
    throw (.transform (.chartType (← texts allowed) (Choice.name c.type)))
  if c.aggregation.cumulative && rolling then throw (.transform .both)

def usualTypes : List String := ["line", "area"]

end Window

/-- The heights of rows in their order, each under the name of the track that its row runs on. -/
abbrev Column (α : Type) := List (String × α)

namespace Column

variable {α : Type}

/-- The heights on one track. -/
def onTrack (track : String) (c : Column α) : List α := (c.filter (·.1 = track)).map (·.2)

/-- At each place, what `f` makes of the heights on its track up to and with its own; `before` holds
the heights that went before. -/
def runAfter (f : List α → α) (before : Column α) : Column α → List α
  | [] => []
  | (track, y) :: rest =>
    let upTo := before ++ [(track, y)]
    f (onTrack track upTo) :: runAfter f upTo rest

def run (f : List α → α) (c : Column α) : List α := runAfter f [] c

variable [Add α] [Zero α]

/-- The sum of a list, added from its first element on. -/
def total (ys : List α) : α := ys.foldl (· + ·) 0

/-- The sums of each track so far. -/
def sums (c : Column α) : List α := run total c

variable [Div α] [NatCast α]

def mean (ys : List α) : α := total ys / (ys.length : α)

/-- The widest window of a running mean, the greatest number in a word of 64 bits. -/
def widestWindow : Nat := 0xFFFFFFFFFFFFFFFF

/-- The means of the last `window` heights of each track, or of as many as there are. -/
def means (window : Nat) (c : Column α) : Outcome (List α) :=
  if widestWindow < window then .error .overflow
  else .ok (run (fun ys => mean (ys.drop (ys.length - window))) c)

end Column

instance Column.natCastFloat : NatCast Float := ⟨Float.ofNat⟩

namespace Row

variable {α : Type}

/-- The name under which rows without a series run together. -/
def noSeries : String := "__no_series__"

/-- The track on which a row runs. -/
def track (row : Row α) : String :=
  match row.series with
  | none => noSeries
  | some s => if s.isEmpty then noSeries else s

def column (rows : List (Row α)) : Column α := rows.map fun row => (row.track, row.y)

/-- Rows with other heights. -/
def withHeights (rows : List (Row α)) (ys : List α) : List (Row α) :=
  List.zipWith (fun row y => { row with y := y }) rows ys

/-- Each row takes on what is made of the column. -/
def runBy (g : Column α → List α) (rows : List (Row α)) : List (Row α) :=
  withHeights rows (g (column rows))

/-- Over a window of one row or none, running means leave rows as they are. -/
def averagedBy (means : Nat → Column α → Outcome (List α)) (window : Nat) (rows : List (Row α)) :
    Outcome (List (Row α)) :=
  if window ≤ 1 || rows.isEmpty then .ok rows
  else do return withHeights rows (← means window (column rows))

variable [Add α] [Zero α]

/-- Each row takes on the sum so far. -/
def cumulative (rows : List (Row α)) : List (Row α) := runBy Column.sums rows

/-- Each row takes on the mean of the last `window` values, or of as many as there are. -/
def averaged [Div α] [NatCast α] (window : Nat) (rows : List (Row α)) : Outcome (List (Row α)) :=
  averagedBy Column.means window rows

end Row
end NotePlot
