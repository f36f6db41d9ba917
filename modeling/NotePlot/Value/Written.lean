import NotePlot.Value.Basic
import NotePlot.Failure
import NotePlot.Calendar.Written
import NotePlot.Decimal.Shortest
/-! The texts of a value: its plain text, its display, and its form inside a written list. -/
namespace NotePlot

namespace Scalar

def spaced (ns : List Nat) : String := ", ".intercalate (ns.map toString)

/-- The parts of a moment from the year on, without seconds or microseconds that are zero. -/
def momentParts (m : Moment) : List Nat :=
  [m.date.year, m.date.month, m.date.day, m.hour, m.minute] ++
    (if m.second = 0 ∧ m.fraction = 0 then []
     else m.second :: if m.fraction = 0 then [] else [m.fraction])

/-- A span of less than a day, by days back, seconds and microseconds. -/
def spanParts (micros : Int) : String :=
  let days := Int.fdiv micros microsPerDay
  let rest := (Int.fmod micros microsPerDay).toNat
  ", ".intercalate
    ((if days = 0 then [] else ["days=" ++ toString days]) ++
     (if rest / microsPerSecond = 0 then [] else ["seconds=" ++ toString (rest / microsPerSecond)]) ++
     (if rest % microsPerSecond = 0 then []
      else ["microseconds=" ++ toString (rest % microsPerSecond)]))

def quotedOffset (o : Offset) : String :=
  if o.micros = 0 then "datetime.timezone.utc"
  else "datetime.timezone(datetime.timedelta(" ++ spanParts o.micros ++ "))"

/-- The least amount with too many digits to be written. -/
def unwritable : Nat := Nat.pow 10 Text.mostDigits

/-- Integers of too many digits have no text. -/
def isWritable : Scalar → Bool
  | int n => n.natAbs < unwritable
  | _ => true

/-- A scalar as it stands inside a written list or mapping. -/
def quoted : Scalar → String
  | null => "None"
  | bool b => if b then "True" else "False"
  | int n => toString n
  | float x => Layout.amount.write x
  | text s => Text.quoted s
  | bytes bs => Text.quotedBytes bs
  | date d => "datetime.date(" ++ spaced [d.year, d.month, d.day] ++ ")"
  | moment m offset =>
    "datetime.datetime(" ++ spaced (momentParts m) ++
      ((offset.map fun o => ", tzinfo=" ++ quotedOffset o).getD "") ++ ")"

/-- A scalar on its own: a text without quotes, a moment with a space before its time. -/
def display : Scalar → String
  | text s => s
  | date d => d.iso
  | moment m offset => String.ofList (m.isoChars ' ' offset)
  | s => s.quoted

/-- The text by which scalars are grouped and compared: truth values in small letters, whole
numbers without a point, moments with a T before their time. -/
def plain : Scalar → String
  | bool b => if b then "true" else "false"
  | float x =>
    let b := Binary.ofFloat x
    if x.isFinite && b.isIntegral then toString b.truncate else Layout.amount.write x
  | moment m offset => m.iso offset
  | s => s.display

/-- The text of a scalar under one of these ways to write it, if it has one. -/
def written (write : Scalar → String) (s : Scalar) : Outcome String :=
  if s.isWritable then .ok (write s) else .error (.range .integerTooLong)

end Scalar

namespace Value

def commas (parts : List String) : String := ", ".intercalate parts

/-- How collections are written, given their parts. -/
def quotedList (parts : List String) : String := "[" ++ commas parts ++ "]"

def quotedTuple (parts : List String) : String :=
  match parts with
  | [part] => "(" ++ part ++ ",)"
  | _ => "(" ++ commas parts ++ ")"

def quotedSet (parts : List String) : String :=
  if parts.isEmpty then "set()" else "\x7b" ++ commas parts ++ "\x7d"

def quotedMap (parts : List String) : String := "\x7b" ++ commas parts ++ "\x7d"

/-- A text of an object of the host, which fails if it refuses. -/
def told : Option String → Outcome String
  | some s => .ok s
  | none => .error .unprintable

end Value

namespace Knot

variable (k : Knot)

/-- A collection inside of itself, where its parts are left out. -/
def omitted : Cell → String
  | .tuple _ => "(...)"
  | .map _ => "\x7b...\x7d"
  | _ => "[...]"

/-- The cell at a place as it stands inside a written list or mapping. The first argument bounds how
deep it goes, and the second holds the places around it. -/
def quotedAt : Nat → List Nat → Nat → Outcome String
  | 0, _, place => .ok (omitted (k.cellAt place))
  | fuel + 1, around, place =>
    let cell := k.cellAt place
    if around.contains place then .ok (omitted cell)
    else
      let part := quotedAt fuel (place :: around)
      match cell with
      | .scalar s => s.written Scalar.quoted
      | .list ps => do return Value.quotedList (← ps.mapM part)
      | .tuple ps => do return Value.quotedTuple (← ps.mapM part)
      | .set items => do return Value.quotedSet (← items.mapM (Scalar.written Scalar.quoted))
      | .map es => do
        return Value.quotedMap (← es.mapM fun (name, p) => do
          return (← name.written Scalar.quoted) ++ ": " ++ (← part p))

/-- A knot as it stands inside a written list or mapping. -/
def quoted : Outcome String := k.quotedAt (k.cells.size + 1) [] k.place

/-- The text of the cell at a place by which values are grouped and compared. A list that contains
itself without a mapping in between has none. -/
def plainAt : Nat → Nat → Outcome String
  | 0, _ => .error .endless
  | fuel + 1, place =>
    match k.cellAt place with
    | .scalar s => s.written Scalar.plain
    | .list ps | .tuple ps => do
      let parts ← ps.mapM fun p =>
        match k.cellAt p with
        | .scalar .null => .ok ""
        | _ => plainAt fuel p
      return ",".intercalate parts
    | .set _ | .map _ => k.quotedAt (k.cells.size + 1) [] place

def plain : Outcome String := k.plainAt (k.cells.size + 1) k.place

end Knot

namespace Value

mutual

/-- A value as it stands inside a written list or mapping. -/
def quoted : Value → Outcome String
  | scalar s => s.written Scalar.quoted
  | list xs => do return quotedList (← quotedItems xs)
  | tuple xs => do return quotedTuple (← quotedItems xs)
  | set xs => do return quotedSet (← quotedItems xs)
  | map es => do return quotedMap (← quotedEntries es)
  | foreign o | arrayLike o _ => told o.quoted
  | knot k => k.quoted

def quotedItems : List Value → Outcome (List String)
  | [] => .ok []
  | x :: xs => do
    let part ← x.quoted
    return part :: (← quotedItems xs)

def quotedEntries : List (Scalar × Value) → Outcome (List String)
  | [] => .ok []
  | (k, v) :: es => do
    let name ← k.written Scalar.quoted
    let part ← v.quoted
    return (name ++ ": " ++ part) :: (← quotedEntries es)

end

/-- A value on its own. -/
def display : Value → Outcome String
  | scalar s => s.written Scalar.display
  | foreign o | arrayLike o _ => told o.display
  | v => v.quoted

mutual

/-- The text by which values are grouped and compared; the items of a list stand between commas,
and null among them has no text. -/
def plain : Value → Outcome String
  | scalar s => s.written Scalar.plain
  | list xs | tuple xs => do return ",".intercalate (← plainItems xs)
  | foreign o | arrayLike o _ => told o.display
  | knot k => k.plain
  | v => v.quoted

def plainItems : List Value → Outcome (List String)
  | [] => .ok []
  | x :: xs => do
    let part ← if x.isNull then .ok "" else x.plain
    return part :: (← plainItems xs)

end

end Value
end NotePlot
