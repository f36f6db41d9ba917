import NotePlot.Metric.PropertyType
import NotePlot.Result.Row
import NotePlot.Decimal.Binary
/-! Headlines: one number or date about all notes of a chart. -/
namespace NotePlot

namespace Measure

def total (xs : List Float) : Float := xs.foldl (· + ·) 0.0

def least (x : Float) (xs : List Float) : Float := xs.foldl (fun a b => if b < a then b else a) x
def greatest (x : Float) (xs : List Float) : Float := xs.foldl (fun a b => if a < b then b else a) x

def earliest (m : Moment) (ms : List Moment) : Moment :=
  ms.foldl (fun a b => if b < a then b else a) m

def latest (m : Moment) (ms : List Moment) : Moment :=
  ms.foldl (fun a b => if a < b then b else a) m

/-- The seconds in microseconds, as the nearest double. -/
def seconds (micros : Nat) : Float := Float.ofScientific micros true 6

/-- The whole days nearest to the time between two moments, half to even. -/
def daysBetween (first last : Moment) : Int :=
  (Binary.ofFloat (seconds (last.ticks - first.ticks) / 86400.0)).round

def ofNumbers (m : Measure) (xs : List Float) : Value :=
  match m, xs with
  | .sum, xs => .scalar (.float (total xs))
  | .mean, x :: xs => .scalar (.float (total (x :: xs) / Float.ofNat (x :: xs).length))
  | .min, x :: xs => .scalar (.float (least x xs))
  | .max, x :: xs => .scalar (.float (greatest x xs))
  | _, _ => .null

/-- A range of a single date is zero days long. -/
def ofDates (m : Measure) (dates : List Moment) : Value :=
  match dates with
  | [] => .null
  | d :: ds =>
    match m with
    | .oldest => .ofMoment (earliest d ds)
    | .newest => .ofMoment (latest d ds)
    | _ => .scalar (.int (if ds.isEmpty then 0 else daysBetween (earliest d ds) (latest d ds)))

/-- What a measure makes of the numbers and dates among the values that are not missing. -/
def value (m : Measure) (numbers : List Float) (dates : List Moment) (count : Nat) : Value :=
  match m with
  | .countNonEmpty => .scalar (.int count)
  | .sum | .mean | .min | .max => m.ofNumbers numbers
  | .countAll | .oldest | .newest | .dateRange => m.ofDates dates

end Measure

namespace Headline

def numbers (ks : List Kinded) : List Float :=
  ks.filterMap fun | .number n => some n.val | _ => none

def dates (ks : List Kinded) : List Moment :=
  ks.filterMap fun | .date m => some m | _ => none

/-- What the notes say in a field, without those that say nothing. -/
def spoken (field : String) : List Note → Outcome (List Kinded)
  | [] => .ok []
  | note :: rest => do
    match ← note.kinded field with
    | .missing => spoken field rest
    | k => return k :: (← spoken field rest)

/-- The value of a measure; a count of all notes looks into none of them. -/
def valueOf (m : Measure) (field : Option String) (notes : List Note) : Outcome Value :=
  match m, field with
  | .countAll, _ => .ok (.scalar (.int notes.length))
  | m, some f => do
    let ks ← spoken f notes
    return m.value (numbers ks) (dates ks) ks.length
  | m, none => .ok (m.value [] [] 0)

/-- The height of a headline; a date has none. -/
def height (v : Value) : Float :=
  match v with
  | .scalar (.int n) => Float.ofInt n
  | .scalar (.float x) => x
  | _ => 0.0

/-- A field without a name is none. -/
def named (field : Option String) : Option String := field.filter (!·.isEmpty)

/-- The single row of a metric. -/
def row (notes : List Note) (field : Option String) (wanted : Option Measure) :
    Outcome (Row Float) := do
  let field := named field
  let type ← PropertyType.detect field notes
  let m := Measure.effective wanted type field.isSome
  let v ← valueOf m field notes
  return .plain (.text (Choice.name m)) (height v) (notes.map (·.path)) none
    (some [("metric_value", v), ("metric_data_type", .text (Choice.name type)),
      ("metric_operation", .text (Choice.name m))])

end Headline
end NotePlot
