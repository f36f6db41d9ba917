import NotePlot.Yaml.Cursor
import NotePlot.Value.Written
/-! Timestamps: dates in YAML, with or without a time and a time zone. -/
namespace NotePlot.Yaml

/-- A time of day in parts, in range or not. -/
structure Clock where
  hour : Nat
  minute : Nat
  second : Nat
  micros : Nat

structure Timestamp where
  year : Nat
  month : Nat
  day : Nat
  clock : Option Clock
  /-- How many minutes the clock is ahead of universal time, if that is said. -/
  zone : Option Int

namespace Timestamp

open Text

/-- From `least` to `most` digits, as many as there are. -/
def digits? (least most : Nat) (cs : List Char) : Option (Nat × List Char) :=
  let ds := (cs.take most).takeWhile Char.isDigit
  if ds.length < least then none else some (numberOf ds, cs.drop ds.length)

def isBlank (c : Char) : Bool := c = ' ' || c = '\t'

/-- The first six digits of a fraction as microseconds. -/
def microsOf (ds : List Char) : Nat :=
  let ds := ds.take 6
  numberOf ds * Nat.pow 10 (6 - ds.length)

def clock? (cs : List Char) : Option (Clock × List Char) := do
  let (hour, cs) ← digits? 1 2 cs
  let cs ← takeChar? ':' cs
  let (minute, cs) ← digits? 2 2 cs
  let cs ← takeChar? ':' cs
  let (second, cs) ← digits? 2 2 cs
  let (micros, cs) := match cs with
    | '.' :: fs => (microsOf (fs.takeWhile Char.isDigit), fs.dropWhile Char.isDigit)
    | _ => (0, cs)
  return (⟨hour, minute, second, micros⟩, cs)

/-- The time zone at the end; there may be none. -/
def zone? (cs : List Char) : Option (Option Int) :=
  if cs.isEmpty then some none
  else match cs.dropWhile isBlank with
    | ['Z'] => some (some 0)
    | sign :: cs =>
      if sign ≠ '+' ∧ sign ≠ '-' then none
      else do
        let (hours, cs) ← digits? 1 2 cs
        let minutes ← match cs with
          | [] => some 0
          | _ => do
            let (minutes, cs) ← digits? 2 2 (← takeChar? ':' cs)
            if cs.isEmpty then some minutes else none
        let n : Int := (hours * 60 + minutes : Nat)
        return some (if sign = '-' then -n else n)
    | [] => none

/-- What stands between a date and its time. -/
def afterGap? : List Char → Option (List Char)
  | [] => none
  | c :: cs =>
    if c = 'T' ∨ c = 't' then some cs
    else if isBlank c then some (cs.dropWhile isBlank)
    else none

/-- Reads a timestamp; a line feed may follow it. -/
def read? (cs : List Char) : Option Timestamp := do
  let (year, cs) ← digits? 4 4 (withoutFinalFeed cs)
  let cs ← takeChar? '-' cs
  let (month, cs) ← digits? 1 2 cs
  let cs ← takeChar? '-' cs
  let (day, cs) ← digits? 1 2 cs
  if cs.isEmpty then return ⟨year, month, day, none, none⟩
  let (clock, cs) ← clock? (← afterGap? cs)
  return ⟨year, month, day, some clock, ← zone? cs⟩

/-- Whether a plain text is a timestamp by its form. A date alone needs its full width. -/
def isPlain (cs : List Char) : Bool :=
  match read? cs with
  | some t => t.clock.isSome || cs.length = 10
  | none => false

def date (t : Timestamp) : Except RangeFault Date :=
  match Date.of? t.year t.month t.day with
  | some d => .ok d
  | none =>
    .error (if t.year < firstYear ∨ lastYear < t.year then .year t.year
      else if t.month < 1 ∨ 12 < t.month then .month
      else .day)

def moment (d : Date) (c : Clock) : Except RangeFault Moment :=
  match Moment.ofClock? d c.hour c.minute c.second c.micros with
  | some m => .ok m
  | none => .error (if 24 ≤ c.hour then .hour else if 60 ≤ c.minute then .minute else .second)

def microsOfMinutes (n : Int) : Int := n * (60 * microsPerSecond : Nat)

/-- A time zone is less than a day from universal time. -/
def offset (minutes : Int) : Except RangeFault Offset :=
  let micros := microsOfMinutes minutes
  if micros.natAbs < microsPerDay then .ok ⟨micros⟩
  else .error (.offset ("datetime.timedelta(" ++ Scalar.spanParts micros ++ ")"))

/-- The value of a timestamp, if its parts are in range. -/
def scalar (t : Timestamp) : Except RangeFault Scalar :=
  match t.clock with
  | none => t.date.map .date
  | some c => do
    let zone ← match t.zone with
      | some minutes => (offset minutes).map some
      | none => pure none
    return .moment (← moment (← t.date) c) zone

end Timestamp
end NotePlot.Yaml
