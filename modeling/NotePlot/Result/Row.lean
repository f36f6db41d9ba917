import NotePlot.Chart.Basic
import NotePlot.Calendar.Written
/-! Rows: what a chart is drawn from, and the form in which rows are handed on. -/
namespace NotePlot

/-- One point, bar, slice or line of a chart, with the paths of the notes behind it. -/
structure Row (α : Type) where
  x : Value
  y : α
  notes : List String
  series : Option String
  start : Option Moment
  finish : Option Moment
  due : Option Moment
  properties : Option Properties

/-- A row without dates. -/
def Row.plain {α : Type} (x : Value) (y : α) (notes : List String) (series : Option String)
    (properties : Option Properties) : Row α :=
  ⟨x, y, notes, series, none, none, none, properties⟩

/-- The rows of a chart and the properties on its axes. -/
structure Result where
  rows : List (Row Float)
  xField : Option FieldName
  yField : Option FieldName

namespace Value

mutual

/-- A value with the written form of every date in it; tuples become lists. -/
def portable : Value → Value
  | scalar (.date d) => text d.iso
  | scalar (.moment m offset) => text (m.iso offset)
  | list xs | tuple xs => list (portableItems xs)
  | map es => map (portableEntries es)
  | v => v

def portableItems : List Value → List Value
  | [] => []
  | x :: xs => x.portable :: portableItems xs

def portableEntries : List (Scalar × Value) → List (Scalar × Value)
  | [] => []
  | (k, v) :: es => (k, v.portable) :: portableEntries es

end

def ofMoment (m : Moment) : Value := scalar (.moment m none)

end Value

namespace Row

open Value

/-- A row as a mapping; what is unset has no entry. -/
def toValue (row : Row Value) : Value :=
  ofFields ([("x", row.x.portable), ("y", row.y), ("notes", texts row.notes)] ++
    [("series", row.series.map text), ("start", row.start.map ofMoment),
      ("end", row.finish.map ofMoment), ("due", row.due.map ofMoment),
      ("props", row.properties.map Properties.toValue)].filterMap
        fun (name, v) => v.map fun v => (name, v.portable))

end Row

namespace Result

open Value

def ofRows (rows : List (Row Value)) (xField yField : Option String) : Value :=
  ofFields [("rows", list (rows.map Row.toValue)), ("xField", ofText? xField),
    ("yField", ofText? yField)]

def toValue (r : Result) : Value :=
  ofRows (r.rows.map fun row => { row with y := scalar (.float row.y) })
    (r.xField.map FieldName.text) (r.yField.map FieldName.text)

end Result
end NotePlot
