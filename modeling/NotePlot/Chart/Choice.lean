/-! Choices by name: the kinds of chart and what else a specification picks from a closed list. -/
namespace NotePlot

/-- A closed list of choices, in the order of their names. -/
class Choice (α : Type) where
  all : List α
  name : α → String

namespace Choice

variable {α : Type} [Choice α]

def ofName? (s : String) : Option α := (all : List α).find? (name · = s)

def names (α : Type) [Choice α] : List String := (all : List α).map name

end Choice

inductive ChartType
  | area
  | bar
  | gantt
  | line
  | metric
  | pie
  | scatter
  | stackedArea
  | stackedBar
  | table
deriving DecidableEq

instance : Choice ChartType where
  all := [.area, .bar, .gantt, .line, .metric, .pie, .scatter, .stackedArea, .stackedBar, .table]
  name
    | .area => "area"
    | .bar => "bar"
    | .gantt => "gantt"
    | .line => "line"
    | .metric => "metric"
    | .pie => "pie"
    | .scatter => "scatter"
    | .stackedArea => "stacked-area"
    | .stackedBar => "stacked-bar"
    | .table => "table"

/-- How the values of one point are made into one. -/
inductive Reduction
  | mean
  | count
  | max
  | min
  | sum
deriving DecidableEq

instance : Choice Reduction where
  all := [.mean, .count, .max, .min, .sum]
  name
    | .mean => "avg"
    | .count => "count"
    | .max => "max"
    | .min => "min"
    | .sum => "sum"

/-- What the headline of a metric says. -/
inductive Measure
  | mean
  | countAll
  | countNonEmpty
  | dateRange
  | max
  | min
  | newest
  | oldest
  | sum
deriving DecidableEq

instance : Choice Measure where
  all := [.mean, .countAll, .countNonEmpty, .dateRange, .max, .min, .newest, .oldest, .sum]
  name
    | .mean => "avg"
    | .countAll => "countAll"
    | .countNonEmpty => "countNonEmpty"
    | .dateRange => "dateRange"
    | .max => "max"
    | .min => "min"
    | .newest => "newest"
    | .oldest => "oldest"
    | .sum => "sum"

inductive Direction
  | ascending
  | descending
deriving DecidableEq

instance : Choice Direction where
  all := [.ascending, .descending]
  name
    | .ascending => "asc"
    | .descending => "desc"

/-- The period of the calendar by which dates on the x axis are grouped. -/
inductive Bucket
  | auto
  | day
  | month
  | none
  | quarter
  | week
  | year
deriving DecidableEq

instance : Choice Bucket where
  all := [.auto, .day, .month, .none, .quarter, .week, .year]
  name
    | .auto => "auto"
    | .day => "day"
    | .month => "month"
    | .none => "none"
    | .quarter => "quarter"
    | .week => "week"
    | .year => "year"

end NotePlot
