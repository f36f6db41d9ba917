import NotePlot.Calendar.Date
/-! Moments: a date and a time of day, to the microsecond, as a clock on the wall shows it. -/
namespace NotePlot

def microsPerSecond : Nat := 1000000
def microsPerDay : Nat := 86400 * microsPerSecond

structure Moment where
  date : Date
  /-- Microseconds since midnight. -/
  micros : Nat
  micros_lt : micros < microsPerDay := by decide
deriving DecidableEq

/-- How far a local clock is ahead of universal time, in microseconds. -/
structure Offset where
  micros : Int
deriving DecidableEq

namespace Moment

def midnight (d : Date) : Moment := ⟨d, 0, by decide⟩

def ofClock? (d : Date) (hour minute second micros : Nat) : Option Moment :=
  if h : hour < 24 ∧ minute < 60 ∧ second < 60 ∧ micros < microsPerSecond then
    some ⟨d, ((hour * 60 + minute) * 60 + second) * microsPerSecond + micros, by
      simp only [microsPerSecond, microsPerDay] at *; omega⟩
  else none

variable (m : Moment)

def hour : Nat := m.micros / (3600 * microsPerSecond)
def minute : Nat := m.micros / (60 * microsPerSecond) % 60
def second : Nat := m.micros / microsPerSecond % 60
def fraction : Nat := m.micros % microsPerSecond

/-- Microseconds since the first midnight of year 1, by which moments are ordered. -/
def ticks : Nat := m.date.number * microsPerDay + m.micros

def startOfDay : Moment := midnight m.date

/-- The moment without its part of a second. -/
def wholeSecond : Moment :=
  ⟨m.date, m.micros - m.fraction, Nat.lt_of_le_of_lt (Nat.sub_le ..) m.micros_lt⟩

/-- The moment a span of microseconds later, or earlier if the span is negative, unless it lies
outside the calendar. -/
def shift? (span : Int) : Option Moment :=
  let t := m.ticks + span
  if t < 0 then none
  else (Date.ofNumber? (t.toNat / microsPerDay)).map fun d =>
    ⟨d, t.toNat % microsPerDay, Nat.mod_lt _ (by decide)⟩

instance : LE Moment := ⟨fun a b => a.ticks ≤ b.ticks⟩
instance : LT Moment := ⟨fun a b => a.ticks < b.ticks⟩
instance (a b : Moment) : Decidable (a ≤ b) := inferInstanceAs (Decidable (a.ticks ≤ b.ticks))
instance (a b : Moment) : Decidable (a < b) := inferInstanceAs (Decidable (a.ticks < b.ticks))

theorem le_def {a b : Moment} : a ≤ b ↔ a.ticks ≤ b.ticks := Iff.rfl

end Moment

/-- The greatest number of whole days that a span of time may have. -/
def maxSpanDays : Int := 999999999

/-- A span of so many microseconds is too long to be one. -/
def isSpanTooLong (micros : Int) : Bool :=
  let days := Int.fdiv micros microsPerDay
  days < -maxSpanDays || maxSpanDays < days

end NotePlot
