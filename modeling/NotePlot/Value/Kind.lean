import NotePlot.Value.Basic
import NotePlot.Failure
import NotePlot.Decimal.Binary
import NotePlot.Decimal.Numeral
import NotePlot.Calendar.Written
import NotePlot.Calendar.Phrase.Date
import NotePlot.Value.Written
/-! What a value says: the number in it, the moment in it, and its kind. -/
namespace NotePlot

/-- A double that is a number; infinities count as numbers. -/
structure Number where
  val : Float
  isNumber : val.isNaN = false
deriving DecidableEq

namespace Number

def of? (x : Float) : Option Number := if h : x.isNaN = false then some ⟨x, h⟩ else none

def zero : Number := ⟨0.0, by decide⟩
def one : Number := ⟨1.0, by decide⟩
def infinity : Number := ⟨1.0 / 0.0, by decide⟩
def negInfinity : Number := ⟨-(1.0 / 0.0), by decide⟩

/-- A number as a value; null stands for none. -/
def toValue (n : Option Number) : Value := (n.map fun n => .scalar (.float n.val)).getD .null

end Number

/-- The double nearest to an integer; there is none beyond the greatest double. -/
def floatOfInt (n : Int) : Outcome Float :=
  let x := Float.ofInt n
  if x.isInf then .error .overflow else .ok x

open Text

/-- The number that a text spells: a decimal numeral, a hexadecimal one without a sign, or infinity
under its full name. Blanks around it do not count, and nothing at all spells zero. -/
def numberInText (cs : List Char) : Outcome (Option Number) :=
  let cs := trim cs
  if cs.isEmpty then .ok (some .zero)
  else match Numeral.read? cs with
    | some n => .ok (Number.of? n.toFloat)
    | none =>
      match Numeral.hexadecimal? cs with
      | some n => (floatOfInt n).map Number.of?
      | none =>
        let word := String.ofList cs
        if word = "Infinity" ∨ word = "+Infinity" then .ok (some .infinity)
        else if word = "-Infinity" then .ok (some .negInfinity)
        else .ok none

namespace Value

/-- Truth values are one and zero; an integer becomes the nearest double. -/
def number : Value → Outcome (Option Number)
  | scalar (.bool b) => .ok (some (if b then .one else .zero))
  | scalar (.int n) => (floatOfInt n).map Number.of?
  | scalar (.float x) => .ok (Number.of? x)
  | scalar (.text s) => numberInText s.toList
  | _ => .ok none

end Value

open Text

/-- Digits, with a sign before them and a fraction after them at most. -/
def isBareNumber (cs : List Char) : Bool :=
  let ds := (Numeral.sign cs).2
  let rest := ds.dropWhile isDigit
  !(ds.takeWhile isDigit).isEmpty && match rest with
    | [] => true
    | c :: fs => c == '.' && !fs.isEmpty && fs.all isDigit

/-- A text that begins with a day in full is read by its first characters alone. Any other text is
read as a phrase, unless it is only a number. -/
def momentInText (phrase : List Char → Outcome (Option Moment)) (cs : List Char) :
    Outcome (Option Moment) :=
  let cs := trim cs
  match leadingMoment? cs with
  | some answer => .ok answer
  | none => if cs.isEmpty || isBareNumber cs then .ok none else phrase cs

/-- Whether a text begins with a day in full, be it in the calendar or not. -/
def beginsLikeDate (s : String) : Bool := beginsWithDay s.toList

namespace Value

/-- The moment of a date, or of a text that begins with a day in full. A date stands for its
midnight, and a moment of another time zone for the time that the clocks there show. -/
def dated? : Value → Option Moment
  | scalar (.moment m _) => some m
  | scalar (.date d) => some (.midnight d)
  | scalar (.text s) => (leadingMoment? s.toList).join
  | _ => none

/-- The moment that a value tells, with texts read in every way that there is. -/
def moment (phrases : Phrases) : Value → Outcome (Option Moment)
  | scalar (.text s) => momentInText phrases.read s.toList
  | v => .ok v.dated?

/-- Whether a value is a text that begins with a day in full. -/
def beginsLikeDate : Value → Bool
  | scalar (.text s) => NotePlot.beginsLikeDate s
  | _ => false

/-- The day of a date, or of a text that begins with one. -/
def day? (v : Value) : Option Date := v.dated?.map (·.date)

/-- The midnight that a moment's day begins with, in the time zone of the moment. Dates and texts
are of the wrong kind for that, and nothing else has a day at all. -/
def startOfDay : Value → Outcome Value
  | scalar (.moment m offset) => .ok (scalar (.moment m.startOfDay offset))
  | scalar (.date _) | scalar (.text _) => .error .wrongKind
  | _ => .error .partMissing

end Value

inductive Kinded
  | missing
  | list
  | date (m : Moment)
  | number (n : Number)
  | text (s : String)

namespace Value

/-- A text without blanks at its ends counts as a date if it begins with a day of the calendar, else
as a number if it spells a finite one. -/
def kindOfText (s : String) : Outcome Kinded := do
  let trimmed := Text.strip s
  if trimmed.isEmpty then return .missing
  match (leadingMoment? trimmed.toList).join with
  | some m => return .date m
  | none =>
    match ← numberInText trimmed.toList with
    | some n => return if n.val.isFinite then .number n else .text trimmed
    | none => return .text trimmed

/-- Null, NaN and blank texts are missing. -/
def kinded (v : Value) : Outcome Kinded :=
  match v.opened with
  | scalar .null => .ok .missing
  | list _ | tuple _ | set _ | arrayLike .. => .ok .list
  | scalar (.moment ..) | scalar (.date _) => .ok ((v.dated?.map .date).getD .missing)
  | scalar (.bool _) | scalar (.int _) | scalar (.float _) => do
    match ← v.number with
    | some n => return .number n
    | none => return .missing
  | _ => do kindOfText (← v.plain)

end Value
end NotePlot
