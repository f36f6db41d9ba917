import NotePlot.Calendar.Moment
import NotePlot.Decimal.Binary
import NotePlot.Failure
import NotePlot.Value.Kind
/-! Intervals, made from whatever dates a note carries, and the spans of time that they last. -/
namespace NotePlot

namespace Span

def microsPerMinute : Nat := 60 * microsPerSecond

/-- A span unless it is too long to be one. -/
def ofMicros? (n : Int) : Option Int := if isSpanTooLong n then none else some n

/-- A whole number of minutes. -/
def ofMinutes? (n : Int) : Option Int := ofMicros? (n * microsPerMinute)

/-- Minutes and a fraction of one. The microseconds in the fraction are computed as a double, and
the whole is rounded to a microsecond, half to even. -/
def ofFraction? (x : Float) : Option Int :=
  let whole := (Binary.ofFloat x).truncate
  let fraction := x - Float.ofInt whole
  let rest := Binary.ofFloat (fraction * Float.ofNat microsPerMinute)
  let d := rest.denominator
  ofMicros? (roundHalfEven (whole * (microsPerMinute * d : Nat) + rest.signed rest.numerator) d)

/-- A span of any number of minutes; an infinite one is too long. -/
def ofFloat (x : Float) : Outcome (Option Int) :=
  if x.isNaN then .error (.range .notANumber)
  else .ok (if x.isInf then none else ofFraction? x)

end Span

structure Interval where
  start : Moment
  finish : Moment
  ordered : start ≤ finish

namespace Interval

/-- The interval between two moments, the earlier one first. -/
def between (a b : Moment) : Interval :=
  if h : a ≤ b then ⟨a, b, h⟩
  else ⟨b, a, by simp only [Moment.le_def] at *; omega⟩

/-- Whether a duration counts: it does if it is finite and above zero. An integer is looked at as a
double for that, and fails if it is beyond all of them. -/
def counts (duration : Value) : Outcome Bool :=
  match duration with
  | .scalar .null => .ok false
  | .scalar (.int n) => do
    let _ ← floatOfInt n
    return 0 < n
  | .scalar (.bool b) => .ok b
  | .scalar (.float x) => .ok (x.isFinite && 0.0 < x)
  | _ => .error .wrongKind

/-- The span of a duration or a block, given in minutes. -/
def lengthOf (minutes : Value) : Outcome (Option Int) :=
  match minutes with
  | .scalar (.int n) => .ok (Span.ofMinutes? n)
  | .scalar (.bool b) => .ok (Span.ofMinutes? (if b then 1 else 0))
  | .scalar (.float x) => Span.ofFloat x
  | _ => .error .wrongKind

/-- The interval that dates and a span make. A missing end is a span away from the other; without
both, the span ends at the due date if it is a duration, and begins there if it is a block. -/
def ofSpan? (start finish due : Option Moment) (span : Int) (hasDuration : Bool) :
    Option Interval :=
  match start, finish, due with
  | some s, some f, _ => some (between s f)
  | some s, none, _ => (s.shift? span).map (between s)
  | none, some f, _ => (f.shift? (-span)).map (between f)
  | none, none, some d =>
    if hasDuration then (d.shift? (-span)).map (between d)
    else (d.shift? span).map (between d)
  | none, none, none => none

/-- The interval of a note, by its duration or else by a block. A span that is too long leaves it
with none, even where both ends are known. -/
def ofDates (start finish due : Option Moment) (duration block : Value) :
    Outcome (Option Interval) := do
  let hasDuration ← counts duration
  let span ← lengthOf (if hasDuration then duration else block)
  return span.bind (ofSpan? start finish due · hasDuration)

end Interval
end NotePlot
