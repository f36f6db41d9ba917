import NotePlot.Category.Bucket
import NotePlot.Category.Parts
import NotePlot.Note.Basic
import NotePlot.Value.Kind
/-! Observations: the points that single notes contribute to a plotted chart. -/
namespace NotePlot

structure Observation where
  x : Value
  key : String
  y : Number
  series : Option String
  path : String
  properties : Properties

namespace Observation

/-- The property behind a channel; no channel stands for null. -/
def channel (props : Properties) (field : Option FieldName) : Value :=
  (field.map fun f => props.get f.text).getD .null

/-- The height of a note: one if notes are counted, else the number in its property. -/
def height? (c : Chart) (props : Properties) : Outcome (Option Number) :=
  if c.aggregation.reduction = some .count then .ok (some .one)
  else match c.encoding.y with
    | some field => (props.get field.text).first.number
    | none => .ok none

/-- The values that a note has on the x axis. -/
def values (c : Chart) (exploded : Bool) (missing : Value) (props : Properties) : List Value :=
  let v := channel props c.encoding.x
  if exploded then Category.explode v missing else v.first.unlessNull.toList

/-- The series of a note; a blank text is none. -/
def series? (c : Chart) (props : Properties) : Outcome (Option String) :=
  match (channel props c.encoding.series).first with
  | .scalar .null => .ok none
  | v => do
    let s ← v.plain
    return if (Text.trim s.toList).isEmpty then none else some s

def atPositions (c : Chart) (y : Number) (series : Option String) (note : Note) :
    List Value → Outcome (List Observation)
  | [] => .ok []
  | v :: vs => do
    let p ← Position.ofBucketed c.bucket v
    return ⟨p.shown, p.key, y, series, note.path, note.properties⟩ ::
      (← atPositions c y series note vs)

/-- The observations of a note, one for each of its values. -/
def ofNote (c : Chart) (exploded : Bool) (missing : Value) (note : Note) :
    Outcome (List Observation) := do
  match ← height? c note.properties with
  | none => return []
  | some y =>
    match values c exploded missing note.properties with
    | [] => return []
    | vs => atPositions c y (← series? c note.properties) note vs

/-- The observations of all notes in their order. -/
def ofNotes (c : Chart) (exploded : Bool) (missing : Value) : List Note → Outcome (List Observation)
  | [] => .ok []
  | note :: rest => do
    let here ← ofNote c exploded missing note
    return here ++ (← ofNotes c exploded missing rest)

/-- Notes without a series form one with an empty name. -/
def seriesName (series : Option String) : String := series.getD ""

/-- Observations with one group key make up one point. -/
def groupKey (o : Observation) : String × String := (seriesName o.series, o.key)

end Observation
end NotePlot
