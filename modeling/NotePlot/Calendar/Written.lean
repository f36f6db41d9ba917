import NotePlot.Calendar.Moment
import NotePlot.Text.Basic
/-! Written dates and moments, and dates read back from the text that begins with one. -/
namespace NotePlot

open Text

def Date.isoChars (d : Date) : List Char :=
  padded 4 d.year ++ '-' :: (padded 2 d.month ++ '-' :: padded 2 d.day)

/-- Year, month and day, each in its full width. -/
def Date.iso (d : Date) : String := String.ofList d.isoChars

/-- A year and a month, the year in as few digits as it has. -/
def Date.monthLabel (d : Date) : String :=
  String.ofList (padded 1 d.year ++ '-' :: padded 2 d.month)

/-- A day as labels show it: the year in as few digits as it has. -/
def Date.dayLabel (d : Date) : String :=
  String.ofList (padded 1 d.year ++ '-' :: (padded 2 d.month ++ '-' :: padded 2 d.day))

def fractionChars (micros : Nat) : List Char :=
  if micros = 0 then [] else '.' :: padded 6 micros

/-- Hours and minutes ahead of universal time; seconds and parts of them only where needed. -/
def Offset.isoChars (o : Offset) : List Char :=
  let n := o.micros.natAbs
  let seconds := n / microsPerSecond
  (if o.micros < 0 then '-' else '+') :: (padded 2 (seconds / 3600) ++
    ':' :: (padded 2 (seconds / 60 % 60) ++
    (if seconds % 60 = 0 ∧ n % microsPerSecond = 0 then []
     else ':' :: (padded 2 (seconds % 60) ++ fractionChars (n % microsPerSecond)))))

def Moment.isoChars (m : Moment) (separator : Char) (offset : Option Offset) : List Char :=
  m.date.isoChars ++ separator :: (padded 2 m.hour ++ ':' :: (padded 2 m.minute ++
    ':' :: (padded 2 m.second ++ (fractionChars m.fraction ++
      ((offset.map Offset.isoChars).getD [])))))

def Moment.iso (m : Moment) (offset : Option Offset) : String :=
  String.ofList (m.isoChars 'T' offset)

/-- The first `n` characters as a number, if they are digits, and what follows. -/
def takeNumber? (n : Nat) (cs : List Char) : Option (Nat × List Char) :=
  let ds := cs.take n
  if ds.length = n then (number? ds).map (·, cs.drop n) else none

def takeChar? (c : Char) : List Char → Option (List Char)
  | [] => none
  | d :: cs => if d = c then some cs else none

/-- Year, month and day at the beginning of a text, in range or not, and what follows. -/
def takeDay? (cs : List Char) : Option ((Nat × Nat × Nat) × List Char) := do
  let (y, cs) ← takeNumber? 4 cs
  let cs ← takeChar? '-' cs
  let (m, cs) ← takeNumber? 2 cs
  let cs ← takeChar? '-' cs
  let (d, cs) ← takeNumber? 2 cs
  return ((y, m, d), cs)

/-- Hours and minutes after a space or a T, and seconds if they follow at once. What does not have
this form stands for midnight. -/
def clockAfterDay : List Char → Nat × Nat × Nat
  | [] => (0, 0, 0)
  | c :: cs =>
    if c = ' ' ∨ c = 'T' then
      let read : Option (Nat × Nat × Option Nat) := do
        let (h, cs) ← takeNumber? 2 cs
        let cs ← takeChar? ':' cs
        let (m, cs) ← takeNumber? 2 cs
        return (h, m, ((takeChar? ':' cs).bind (takeNumber? 2)).map Prod.fst)
      match read with
      | some (h, m, s) => (h, m, s.getD 0)
      | none => (0, 0, 0)
    else (0, 0, 0)

def beginsWithDay (cs : List Char) : Bool := (takeDay? cs).isSome

/-- The moment that a text begins with. Without a day at its beginning there is no answer; with one
that is in no calendar, or with a time that no clock shows, the answer is that there is none. -/
def leadingMoment? (cs : List Char) : Option (Option Moment) := do
  let ((y, m, d), rest) ← takeDay? cs
  let (hour, minute, second) := clockAfterDay rest
  return (Date.of? y m d).bind fun date => Moment.ofClock? date hour minute second 0

end NotePlot
