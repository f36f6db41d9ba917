import NotePlot.Failure
import NotePlot.Calendar.Date
import NotePlot.Decimal.Numeral
import NotePlot.Text.Basic
import NotePlot.Text.LetterCase
/-! Relative dates: today, yesterday, and steps of days, weeks or months from a given day. -/
namespace NotePlot

inductive Relative
  | today
  | yesterday
  | days (n : Int)
  | weeks (n : Int)
  | months (n : Int)
deriving DecidableEq

/-- Years outside the calendar are reported by their number as long as 32 bits hold it. -/
def isReportable (year : Int) : Bool := -0x80000000 ≤ year && year < 0x80000000

namespace Date

/-- A step outside the calendar overflows. -/
def stepDays (d : Date) (n : Int) : Outcome Date :=
  match d.shift? n with
  | some d => .ok d
  | none => .error .overflow

/-- The same day of another month. In a month that lacks the day, the days beyond its end are
counted into the month after it. -/
def stepMonths (d : Date) (n : Int) : Outcome Date :=
  let index := (d.month : Int) - 1 + n
  let year := d.year + Int.fdiv index 12
  let month := (Int.fmod index 12).toNat + 1
  match of? year.toNat month 1 with
  | some first => first.stepDays (d.day - 1)
  | none => .error (if isReportable year then .range (.year year) else .overflow)

end Date

namespace Relative

open Text

def resolve (day : Date) : Relative → Outcome Date
  | today => .ok day
  | yesterday => day.stepDays (-1)
  | days n => day.stepDays n
  | weeks n => day.stepDays (7 * n)
  | months n => day.stepMonths n

/-- The unit that a letter stands for; without one it is days. -/
def unit? : List Char → Option (Int → Relative)
  | [] | ['d'] => some days
  | ['w'] => some weeks
  | ['m'] => some months
  | _ => none

/-- A sign, digits and at most one letter for the unit. -/
def ofSigned : List Char → Outcome (Option Relative)
  | [] => .ok none
  | sign :: cs =>
    let ds := cs.takeWhile isDigit
    match unit? (cs.dropWhile isDigit) with
    | none => .ok none
    | some steps =>
      if ds.isEmpty ∨ (sign ≠ '+' ∧ sign ≠ '-') then .ok none
      else do
        let n ← (Integer.ofDigits ds).mapError .range
        return some (steps (if sign = '-' then -(n : Int) else n))

def ofLower (cs : List Char) : Outcome (Option Relative) :=
  if cs = "today".toList then .ok (some today)
  else if cs = "yesterday".toList then .ok (some yesterday)
  else ofSigned cs

/-- Reads a relative date in letters of either case, with blanks around it or not. -/
def read (cs : List Char) : Outcome (Option Relative) := ofLower (lowerChars (trim cs))

end Relative
end NotePlot
