import NotePlot.Calendar.Phrase.Reading
import NotePlot.Calendar.Moment
import NotePlot.Failure
/-! The date that a phrase names. It counts only if the phrase leaves none of its parts open. -/
namespace NotePlot

namespace Phrase

structure Parts where
  year : Option Nat := none
  month : Option Nat := none
  day : Option Nat := none

namespace Reading

variable (r : Reading)

/-- Two known places of three leave one for the day. -/
def remaining (i j : Nat) : Nat := 3 - i - j

/-- Numbers with a known place are taken from it. Of the others, one above 31 is a year; for the
rest the month comes first, unless a month has a name or the first number is above 12. -/
def parts? : Option Parts :=
  match r.numbers, r.yearAt, r.monthAt with
  | [], _, _ => some {}
  | [a], some _, none => some { year := a }
  | [a], none, some _ => some { month := a }
  | [a], _, _ => some (if 31 < a then { year := a } else { day := a })
  | [a, b], some i, some _ =>
    some (if i = 0 then { year := a, month := b } else { year := b, month := a })
  | [a, b], none, some i =>
    let (m, other) := if i = 0 then (a, b) else (b, a)
    some (if 31 < other then { year := other, month := m } else { month := m, day := other })
  | [a, b], _, none =>
    some (if 31 < a then { year := a, month := b }
      else if 31 < b then { month := a, year := b }
      else { month := a, day := b })
  | [a, b, c], some i, some j =>
    let at? (k : Nat) := [a, b, c][k]?
    some { year := at? i, month := at? j, day := at? (remaining i j) }
  | [a, b, c], _, some 0 =>
    some (if 31 < b then { month := a, year := b, day := c } else { month := a, day := b, year := c })
  | [a, b, c], _, some 1 =>
    some (if 31 < a then { year := a, month := b, day := c } else { day := a, month := b, year := c })
  | [a, b, c], _, some _ =>
    some (if 31 < b then { day := a, year := b, month := c } else { year := a, day := b, month := c })
  | [a, b, c], i, none =>
    some (if 31 < a ∨ i = some 0 then { year := a, month := b, day := c }
      else if 12 < a then { day := a, month := b, year := c }
      else { month := a, day := b, year := c })
  | _, _, _ => none

/-- The moment that a reading gives when open parts are taken from a default date. A day of the
week without a day of the month is the first such day from the date on. -/
def complete? (thisYear : Nat) (default : Date) : Option Moment := do
  let parts ← r.parts?
  let year := (parts.year.map fun y => yearInFull thisYear y r.fullYear).getD default.year
  let month := parts.month.getD default.month
  let day := parts.day.getD (min default.day (daysInMonth year month))
  let date ← Date.of? year month day
  let date ← match r.weekday, parts.day with
    | some w, none => date.shift? ((7 - date.weekday + w) % 7 : Nat)
    | _, _ => some date
  Moment.ofClock? date (r.hour.getD 0) (r.minute.getD 0) (r.second.getD 0) (r.micros.getD 0)

/-- No clock differs from universal time by more seconds than the longest span has. Beside a name of
universal time, an offset does not count. -/
def isZonePossible : Bool :=
  r.zone.any isUniversal || !isSpanTooLong (r.zoneSeconds.getD 0 * microsPerSecond)

end Reading

def firstDefault : Date := ⟨2000, 1, 1, by decide, by decide, by decide⟩
def secondDefault : Date := ⟨2001, 2, 2, by decide, by decide, by decide⟩

/-- The moment that a reading gives, if it says the whole date. The two defaults share neither year
nor month nor day, so what depends on them shows. -/
def Reading.moment? (r : Reading) (thisYear : Nat) : Option Moment := do
  let m ← r.complete? thisYear firstDefault
  let other ← r.complete? thisYear secondDefault
  if m.date = other.date ∧ r.isZonePossible then some m else none

/-- The moment that a phrase names in a year. An unreadable phrase names none. -/
def moment (thisYear : Nat) (cs : List Char) : Outcome (Option Moment) :=
  match readFrom thisYear {} [] (tokens (cs.filter (·.toNat != 0))) with
  | .ok r => .ok (r.moment? thisYear)
  | .error .unreadable => .ok none
  | .error .amountTooLarge => .error .amountTooLarge

end Phrase

/-- A way to read phrases: the moment that each of them names, if it names one. Nothing can be told
of a phrase only because of an amount of too many digits in it. -/
structure Phrases where
  read : List Char → Outcome (Option Moment)
  fails : ∀ cs failure, read cs = .error failure → failure = .amountTooLarge

/-- A reader to whom no phrase says anything. -/
instance Phrases.inhabited : Inhabited Phrases where
  default := ⟨fun _ => .ok none, fun _ _ h => by cases h⟩

/-- Phrases as they are read in a year. -/
def Phrases.ofYear (thisYear : Nat) : Phrases where
  read := Phrase.moment thisYear
  fails cs failure h := by
    unfold Phrase.moment at h
    split at h <;> cases h
    rfl

end NotePlot
