import NotePlot.Chart.Choice
import NotePlot.Value.Basic
import NotePlot.Failure
/-! Charts: what a chart shows, of which notes, and how. -/
namespace NotePlot

/-- Which notes feed a chart: those in one of the folders, with one of the tags, for which all
clauses hold. -/
structure Feed where
  folders : List String
  tags : List String
  clauses : List String
deriving DecidableEq

/-- The name of the property behind a channel. An empty text names none: its channel is unset. -/
structure FieldName where
  text : String
  isNamed : text ≠ ""
deriving DecidableEq

def FieldName.of? (s : String) : Option FieldName := if h : s = "" then none else some ⟨s, h⟩

/-- The property behind each channel of a chart. The channels from `start` on are those of
timelines. -/
structure Encoding where
  x : Option FieldName := none
  y : Option FieldName := none
  series : Option FieldName := none
  start : Option FieldName := none
  finish : Option FieldName := none
  due : Option FieldName := none
  scheduled : Option FieldName := none
  /-- How long something takes, in minutes. -/
  duration : Option FieldName := none
  group : Option FieldName := none
  label : Option FieldName := none
deriving DecidableEq

/-- How values are reduced, and whether running sums or means are taken after that. -/
structure Aggregation where
  reduction : Option Reduction
  cumulative : Bool
  /-- The window of a running mean, as given. -/
  rolling : Value
  measure : Option Measure

structure Chart where
  type : ChartType
  feed : Feed
  encoding : Encoding
  aggregation : Aggregation
  direction : Direction
  title : String
  /-- Whether a value with many parts counts for each of them; if unset, the type decides. -/
  explode : Option Bool
  bucket : Bucket

/-- Whether a list, as a setting holds it, names a type of chart. -/
def ChartType.isAmong (type : ChartType) (members : List Value) : Bool :=
  members.any fun
    | .scalar (.text s) => s = Choice.name type
    | _ => false

namespace Chart

/-- Charts of the other types plot no points. -/
def isPlotted (c : Chart) : Bool := c.type ≠ .table ∧ c.type ≠ .gantt ∧ c.type ≠ .metric

/-- A plotted chart needs both axes, a count of notes only one. -/
def check (c : Chart) : Except ChannelFault Unit :=
  if !c.isPlotted then .ok ()
  else if c.encoding.x.isNone then .error .xMissing
  else if c.encoding.y.isNone ∧ c.aggregation.reduction ≠ some .count then .error .yMissing
  else .ok ()

end Chart
end NotePlot
