import NotePlot.Plot.Observation
import NotePlot.Result.Row
import NotePlot.Plot.Running
/-! The points of a plotted chart: observations, grouped or not, sorted by what they show on the x
axis and then by series, and run if so wished. -/
namespace NotePlot

/-- Observations of one group, in their order; there is at least one. -/
structure Group where
  head : Observation
  tail : List Observation

namespace Group

def members (g : Group) : List Observation := g.head :: g.tail

/-- The last observation of a group. -/
def last (g : Group) : Observation := (g.tail.getLast?).getD g.head

def ofMembers? : List Observation → Option Group
  | [] => none
  | o :: os => some ⟨o, os⟩

/-- The groups of observations, one a key, in the order in which the keys appear first. -/
def ofObservations (os : List Observation) : List Group :=
  (os.map (·.groupKey)).eraseDups.filterMap fun key =>
    ofMembers? (os.filter (·.groupKey = key))

end Group

namespace Reduction

def lesser (a b : Number) : Number := if b.val < a.val then b else a
def greater (a b : Number) : Number := if a.val < b.val then b else a

/-- The sum of numbers, added in their order. -/
def total (ns : List Number) : Float := ns.foldl (fun acc n => acc + n.val) 0.0

/-- Makes one value of the values of a group, of which `y` is the first. -/
def apply (r : Reduction) (y : Number) (ys : List Number) : Float :=
  match r with
  | sum => total (y :: ys)
  | mean => total (y :: ys) / Float.ofNat (y :: ys).length
  | min => (ys.foldl lesser y).val
  | max => (ys.foldl greater y).val
  | count => Float.ofNat (y :: ys).length

end Reduction

namespace Group

/-- A point shows what its first observation shows, carries the properties of its last note, and
keeps the paths of all. -/
def row (r : Reduction) (g : Group) : Row Float :=
  .plain g.head.x (r.apply g.head.y (g.tail.map (·.y))) (g.members.map (·.path)) g.head.series
    (some g.last.properties)

end Group

/-- The point of an observation that is not grouped with others. -/
def Observation.row (o : Observation) : Row Float :=
  .plain o.x o.y.val [o.path] o.series (some o.properties)

/-- The direction that a text names; whatever does not name the descending one is taken for the
ascending one. -/
def Direction.named (s : String) : Direction :=
  if s = Choice.name Direction.descending then .descending else .ascending

namespace Row

variable {α : Type}

/-- What a row is sorted by. -/
structure SortKey where
  x : String
  series : String
deriving DecidableEq

namespace SortKey

/-- Whether a row may stand before another. Only the order on the x axis has a direction. -/
def le (dir : Direction) (a b : SortKey) : Bool :=
  match compare a.x b.x with
  | .lt => dir = .ascending
  | .gt => dir = .descending
  | .eq => a.series ≤ b.series

end SortKey

def sortKey (row : Row α) : Outcome SortKey := do
  return ⟨← row.x.plain, Observation.seriesName row.series⟩

def keyed : List (Row α) → Outcome (List (SortKey × Row α))
  | [] => .ok []
  | row :: rest => do
    let key ← row.sortKey
    return (key, row) :: (← keyed rest)

/-- Sorts rows; those with equal keys keep their order. A single row needs no key. -/
def sort (dir : Direction) (rows : List (Row α)) : Outcome (List (Row α)) :=
  match rows with
  | [] => .ok []
  | [row] => .ok [row]
  | _ => do
    return ((← keyed rows).mergeSort fun a b => a.1.le dir b.1).map Prod.snd

end Row

/-- How a chart is plotted, apart from what its specification says. -/
structure PlotStyle where
  exploded : Bool := false
  missing : Value := .text Category.usualMissing
  /-- The types of chart that may have running sums and means. -/
  runningTypes : Value := .texts Window.usualTypes

namespace Chart

/-- The rows before sorting. -/
def unsorted (c : Chart) (os : List Observation) : List (Row Float) :=
  match c.aggregation.reduction with
  | some r => (Group.ofObservations os).map (·.row r)
  | none => os.map (·.row)

/-- Running means win over running sums. -/
def run (c : Chart) (rows : List (Row Float)) : Outcome (List (Row Float)) :=
  if c.aggregation.rolling.isSet then do Row.averaged (← Window.read c.aggregation.rolling) rows
  else .ok (if c.aggregation.cumulative then Row.cumulative rows else rows)

/-- The points of a chart; without any observation its window is never read. -/
def points (c : Chart) (style : PlotStyle) (notes : List Note) : Outcome (List (Row Float)) := do
  Window.check c style.runningTypes
  let os ← Observation.ofNotes c style.exploded style.missing notes
  if os.isEmpty then return []
  c.run (← Row.sort c.direction (c.unsorted os))

end Chart
end NotePlot
