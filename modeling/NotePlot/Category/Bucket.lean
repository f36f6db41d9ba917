import NotePlot.Calendar.Relative
import NotePlot.Chart.Choice
import NotePlot.Value.Kind
import NotePlot.Value.Written
/-! Buckets and positions: the periods of the calendar and the labels of dates by the period they
fall in; what is shown on the x axis, and the key under which notes meet there. -/
namespace NotePlot

namespace Bucket

/-- The label of the period that a date falls in. Weeks are named by their Monday. -/
def label? (b : Bucket) (d : Date) : Option String :=
  match b with
  | .none => Option.none
  | .auto | .day => some d.dayLabel
  | .week => some (d.monday.dayLabel ++ " (W)")
  | .month => some d.monthLabel
  | .quarter => some (toString d.year ++ "-Q" ++ toString d.quarter)
  | .year => some (toString d.year)

/-- The label of a value that is a date or begins with one. -/
def relabel? (b : Bucket) (v : Value) : Option String := v.day?.bind b.label?

/-- A value with no label stays as it is. -/
def relabel (b : Bucket) (v : Value) : Value := ((b.relabel? v).map Value.text).getD v

/-- Relabels a value by steps of the calendar, of which the one back to a Monday could lead out of
it. -/
def relabelByStep (b : Bucket) (v : Value) : Outcome Value :=
  match b, v.day? with
  | .week, some d => do
    let monday ← d.stepDays (-d.weekday)
    return .text (monday.dayLabel ++ " (W)")
  | _, _ => .ok (b.relabel v)

end Bucket

structure Position where
  shown : Value
  key : String
  isDate : Bool

namespace Position

/-- A position that shows a text and has it for its key. -/
def ofText (s : String) (isDate : Bool) : Position := ⟨.text s, s, isDate⟩

/-- The position of a value as it is. All moments of a day have one position, be they dates or
texts that begin with one; such a text is cut after its day. -/
def ofValue (v : Value) : Outcome Position :=
  match v with
  | .scalar (.text s) =>
    if NotePlot.beginsLikeDate s then .ok (ofText (String.ofList (s.toList.take 10)) true)
    else .ok ⟨v, s, false⟩
  | .scalar (.date d) => .ok (ofText d.dayLabel true)
  | .scalar (.moment m _) => .ok (ofText m.date.dayLabel true)
  | _ => do return ⟨v, ← v.plain, false⟩

/-- The position of a value after its bucket. -/
def ofBucketed (b : Bucket) (v : Value) : Outcome Position :=
  match b.relabel? v with
  | some label => .ok (ofText label false)
  | none => ofValue v

end Position
end NotePlot
