import NotePlot.Chart.Basic
import NotePlot.Timeline.Interval
import NotePlot.Result.Row
import NotePlot.Note.Basic
import NotePlot.Value.Kind
import NotePlot.Value.Written
/-! Timelines: a bar for each note that has an interval, in the order of their starts. -/
namespace NotePlot

structure Bar where
  label : Value
  interval : Interval
  due : Option Moment
  series : Option String
  path : String
  properties : Properties

namespace Bar

/-- What a channel shows of a note; a list shows its first item. -/
def channel (props : Properties) (field : Option FieldName) : Value :=
  (field.map fun f => (props.get f.text).first).getD .null

def date (phrases : Phrases) (props : Properties) (field : Option FieldName) :
    Outcome (Option Moment) :=
  (channel props field).moment phrases

/-- A note is labelled by the property for labels or else by that on the x axis, and by its path
where that has no text. -/
def labelOf (e : Encoding) (note : Note) : Outcome Value := do
  let v := channel note.properties (e.label.or e.x)
  if v.isNull then return .text note.path
  return if (← v.plain).isEmpty then .text note.path else v

def seriesOf (e : Encoding) (props : Properties) : Outcome (Option String) :=
  match channel props e.series with
  | .scalar .null => .ok none
  | v => v.plain.map some

/-- When a note starts; a scheduled date stands for a start that is missing. -/
def startOf (phrases : Phrases) (e : Encoding) (props : Properties) : Outcome (Option Moment) := do
  match ← date phrases props e.start with
  | some m => return some m
  | none => date phrases props e.scheduled

/-- The bar of a note that has an interval. -/
def ofNote (phrases : Phrases) (e : Encoding) (block : Value) (note : Note) :
    Outcome (Option Bar) := do
  let props := note.properties
  let start ← startOf phrases e props
  let finish ← date phrases props e.finish
  let due ← date phrases props e.due
  let duration ← (channel props e.duration).number
  match ← Interval.ofDates start finish due (Number.toValue duration) block with
  | none => return none
  | some interval =>
    let label ← labelOf e note
    let series ← seriesOf e props
    return some ⟨label, interval, due, series, note.path, props⟩

def ofNotes (phrases : Phrases) (e : Encoding) (block : Value) : List Note → Outcome (List Bar)
  | [] => .ok []
  | note :: rest => do
    let bar ← ofNote phrases e block note
    return bar.toList ++ (← ofNotes phrases e block rest)

/-- Bars have no height. -/
def row (b : Bar) : Row Float where
  x := b.label
  y := 0.0
  notes := [b.path]
  series := b.series
  start := some b.interval.start
  finish := some b.interval.finish
  due := b.due
  properties := some b.properties

end Bar

namespace Encoding

/-- The bars of all notes by their start; those with one start keep their order. -/
def bars (phrases : Phrases) (e : Encoding) (block : Value) (notes : List Note) :
    Outcome (List Bar) := do
  let bars ← Bar.ofNotes phrases e block notes
  return bars.mergeSort fun a b => a.interval.start ≤ b.interval.start

end Encoding

/-- The minutes of a block of time for notes without a duration. -/
def usualBlock : Value := .scalar (.int 60)

end NotePlot
