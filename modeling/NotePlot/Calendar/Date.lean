/-! Dates of the Gregorian calendar, extended backward, in the years 1 to 9999, and their day
numbers. -/
namespace NotePlot

def isLeap (y : Nat) : Bool := y % 4 == 0 && (y % 100 != 0 || y % 400 == 0)

def daysInMonth (y m : Nat) : Nat :=
  if m = 2 then if isLeap y then 29 else 28
  else if m = 4 ∨ m = 6 ∨ m = 9 ∨ m = 11 then 30
  else 31

/-- The days of all years before `y`, counted from year 1. -/
def daysBeforeYear (y : Nat) : Nat :=
  365 * (y - 1) + (y - 1) / 4 - (y - 1) / 100 + (y - 1) / 400

/-- The days of all months of year `y` before month `m`. -/
def daysBeforeMonth (y : Nat) : Nat → Nat
  | 0 => 0
  | m + 1 => if m = 0 then 0 else daysBeforeMonth y m + daysInMonth y m

def firstYear : Nat := 1
def lastYear : Nat := 9999

/-- All days there are. -/
def dayCount : Nat := daysBeforeYear (lastYear + 1)

structure Date where
  year : Nat
  month : Nat
  day : Nat
  year_mem : firstYear ≤ year ∧ year ≤ lastYear := by decide
  month_mem : 1 ≤ month ∧ month ≤ 12 := by decide
  day_mem : 1 ≤ day ∧ day ≤ daysInMonth year month := by decide
deriving DecidableEq

namespace Date

def of? (y m d : Nat) : Option Date :=
  if h : (firstYear ≤ y ∧ y ≤ lastYear) ∧ (1 ≤ m ∧ m ≤ 12) ∧ 1 ≤ d ∧ d ≤ daysInMonth y m then
    some ⟨y, m, d, h.1, h.2.1, h.2.2⟩
  else none

/-- The number of days before the date; the first day of year 1 has number 0. -/
def number (d : Date) : Nat :=
  daysBeforeYear d.year + daysBeforeMonth d.year d.month + (d.day - 1)

/-- The year that holds day `n`. A year has 146097 / 400 days on average, and the first guess from
that is off by at most one. -/
def yearOf (n : Nat) : Nat :=
  let guess := n * 400 / 146097 + 1
  if daysBeforeYear (guess + 1) ≤ n then guess + 1 else guess

/-- The month of year `y` that holds its day `k`, counted from 0. -/
def monthOf (y k : Nat) : Nat :=
  ((List.range 12).filter fun m => daysBeforeMonth y (m + 1) ≤ k).length

/-- The date with a given number, if it lies in the calendar. -/
def ofNumber? (n : Nat) : Option Date :=
  let y := yearOf n
  let k := n - daysBeforeYear y
  let m := monthOf y k
  of? y m (k - daysBeforeMonth y m + 1)

/-- The date some days later, or earlier if `days` is negative. -/
def shift? (d : Date) (days : Int) : Option Date :=
  let n := d.number + days
  if n < 0 then none else ofNumber? n.toNat

/-- Days since Monday. -/
def weekday (d : Date) : Nat := d.number % 7

/-- The Monday of a date's week. Week days count from the first day of year 1, a Monday, so the
week of every date begins inside the calendar. -/
def monday (d : Date) : Date := (d.shift? (-d.weekday)).getD d

def quarter (d : Date) : Nat := (d.month - 1) / 3 + 1

@[ext]
theorem ext {a b : Date} (hy : a.year = b.year) (hm : a.month = b.month) (hd : a.day = b.day) :
    a = b := by
  cases a; cases b; simp_all

theorem of?_eq_some {d : Date} : of? d.year d.month d.day = some d := by
  simp [of?, d.year_mem, d.month_mem, d.day_mem]

end Date

example : Date.number ⟨2024, 1, 1, by decide, by decide, by decide⟩ = 738885 := by decide
example : (Date.ofNumber? 738885).map (·.year) = some 2024 := by decide

end NotePlot
