import NotePlot.Clause.Operand
import NotePlot.Value.Written
/-! Conditions on the properties of a note, and when they hold. -/
namespace NotePlot

inductive Operator
  | eq
  | ne
  | gt
  | ge
  | lt
  | le
  | between
  /-- An operator of a host that no pair of values satisfies. -/
  | never
deriving DecidableEq

namespace Operator

def symbol : Operator → String
  | eq => "=="
  | ne => "!="
  | gt => ">"
  | ge => ">="
  | lt => "<"
  | le => "<="
  | between => "between"
  | never => "never"

/-- Whether a comparison holds between things that are ordered like this. -/
def admits (op : Operator) (o : Ordering) : Bool :=
  match op with
  | eq => o == .eq
  | ne => o != .eq
  | gt => o == .gt
  | ge => o != .lt
  | lt => o == .lt
  | le => o != .gt
  | between | never => false

/-- Whether a comparison holds between things that may be in no order; such things differ, and that
is all that can be said of them. -/
def admits? (op : Operator) (o : Option Ordering) : Outcome Bool :=
  match o, op with
  | some o, _ => .ok (op.admits o)
  | none, ne => .ok true
  | none, eq | none, between | none, never => .ok false
  | none, gt | none, ge | none, lt | none, le => .error .wrongKind

end Operator

/-- A field, an operator and what to compare with; `upper` is the upper bound of a range. -/
structure Condition where
  field : String
  operator : Operator
  value : Value
  kind : OperandKind
  upper : Option Value

namespace Condition

/-- An upper bound belongs to a range and to nothing else. -/
def make (field : String) (op : Operator) (value : Value) (kind : OperandKind)
    (upper : Option Value) : Outcome Condition :=
  if decide (op = .between) = upper.isSome then .ok ⟨field, op, value, kind, upper⟩
  else .error (.clause (.boundMismatch field))

/-- How two numbers are ordered; numbers are never unordered. -/
def compareNumbers (a b : Number) : Ordering :=
  if a.val < b.val then .lt else if a.val == b.val then .eq else .gt

/-- The bound that an operand sets for dates: the day of a moment, which may be tied to a time
zone. -/
structure DayBound where
  day : Date
  isZoned : Bool

/-- Only a moment sets a bound, and only its day counts. -/
def dayBound? : Value → Option DayBound
  | .scalar (.moment m offset) => some ⟨m.date, offset.isSome⟩
  | _ => none

/-- How a day of a note lies to a bound. The days of notes are in no time zone, and so in no order
with a bound in one. -/
def DayBound.order? (bound : DayBound) (day : Date) : Option Ordering :=
  if bound.isZoned then none else some (compare day.number bound.day.number)

/-- Whether a number is at most an upper bound; what is no number bounds nothing. -/
def isAtMost (n : Number) : Value → Bool
  | .scalar (.int k) => compareWithInt n.val k != some .gt
  | .scalar (.float x) => n.val ≤ x
  | _ => false

def holdsOfDate (c : Condition) (v : Value) : Outcome Bool :=
  match v.day?, dayBound? c.value with
  | some day, some bound =>
    if c.operator = .between then
      match c.upper.bind dayBound? with
      | some last => do
        if ← Operator.ge.admits? (bound.order? day) then Operator.le.admits? (last.order? day)
        else return false
      | none => .ok false
    else c.operator.admits? (bound.order? day)
  | _, _ => .ok false

def holdsOfNumber (c : Condition) (v : Value) : Outcome Bool := do
  match ← v.number with
  | none => return false
  | some n =>
    match ← c.value.number with
    | none => return false
    | some bound =>
      if c.operator = .between then
        return bound.val ≤ n.val && (c.upper.map (isAtMost n)).getD false
      else return c.operator.admits (compareNumbers n bound)

def holdsOfText (c : Condition) (v : Value) : Outcome Bool := do
  if c.operator = .between then return false
  let left ← v.plain
  let right ← c.value.plain
  return c.operator.admits (compare left right)

/-- A condition never holds of a missing property, and a range of texts holds of nothing. -/
def holds (c : Condition) (props : Properties) : Outcome Bool :=
  let v := props.get c.field
  if v.isNull then .ok false
  else match c.kind with
    | .date => c.holdsOfDate v
    | .number => c.holdsOfNumber v
    | .text => c.holdsOfText v

end Condition
end NotePlot
