import NotePlot.Chart.Choice
import NotePlot.Note.Basic
import NotePlot.Value.Kind
/-! The type of a property, guessed from the notes, and what may be measured of it. -/
namespace NotePlot

inductive PropertyType
  | date
  | number
  | text
deriving DecidableEq

instance : Choice PropertyType where
  all := [.date, .number, .text]
  name
    | .date => "date"
    | .number => "number"
    | .text => "text"

/-- What a note says in a field; a list says what its first item does. -/
def Note.kinded (note : Note) (field : String) : Outcome Kinded :=
  (note.properties.get field).first.kinded

namespace PropertyType

/-- How many values the guess is made from. -/
def sampleSize : Nat := 20

/-- The first `n` values that are not missing. -/
def sample (field : String) : Nat → List Note → Outcome (List Kinded)
  | 0, _ => .ok []
  | _ + 1, [] => .ok []
  | n + 1, note :: rest => do
    match ← note.kinded field with
    | .missing => sample field (n + 1) rest
    | k => return k :: (← sample field n rest)

def numberCount (ks : List Kinded) : Nat := ks.countP fun | .number _ => true | _ => false
def dateCount (ks : List Kinded) : Nat := ks.countP fun | .date _ => true | _ => false

/-- The more frequent of numbers and dates, numbers if neither is; text if there are none. -/
def ofSample (ks : List Kinded) : PropertyType :=
  if numberCount ks = 0 ∧ dateCount ks = 0 then .text
  else if dateCount ks ≤ numberCount ks then .number
  else .date

/-- The type of a field; no field counts as text. -/
def detect (field : Option String) (notes : List Note) : Outcome PropertyType :=
  match field with
  | none => .ok .text
  | some f => do return ofSample (← sample f sampleSize notes)

def measures : PropertyType → List Measure
  | number => [.countAll, .countNonEmpty, .sum, .mean, .min, .max]
  | date => [.countAll, .countNonEmpty, .oldest, .newest, .dateRange]
  | text => [.countAll, .countNonEmpty]

end PropertyType

namespace Measure

/-- Without a field, all that can be measured is the number of notes. -/
def allowed (type : PropertyType) (hasField : Bool) : List Measure :=
  if hasField then type.measures else [.countAll]

/-- What may be measured of a type given by its name. -/
def allowedByName (typeName : String) (hasField : Bool) : Outcome (List Measure) :=
  if !hasField then .ok [.countAll]
  else match Choice.ofName? typeName with
    | some type => .ok (allowed type true)
    | none => .error .unknownName

def usual (hasField : Bool) : Measure := if hasField then .countNonEmpty else .countAll

/-- The measure that is wanted if it is allowed, else the usual one. -/
def effective (wanted : Option Measure) (type : PropertyType) (hasField : Bool) : Measure :=
  match wanted with
  | some m => if m ∈ allowed type hasField then m else usual hasField
  | none => usual hasField

end Measure
end NotePlot
