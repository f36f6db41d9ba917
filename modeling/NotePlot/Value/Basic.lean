import NotePlot.Calendar.Moment
/-! Property values: whatever a host or a settings file may hold under a name. Collections that
contain themselves have no end when gone through part by part, so they are kept in a table of cells
that refer to one another by their places. -/
namespace NotePlot

/-- A value without parts; these are the values that can be keys of a mapping. -/
inductive Scalar
  | null
  | bool (b : Bool)
  | int (n : Int)
  | float (x : Float)
  | text (s : String)
  | bytes (bs : List UInt8)
  | date (d : Date)
  | moment (m : Moment) (offset : Option Offset)
deriving DecidableEq

/-- The name of the kind of a scalar in messages. -/
def Scalar.kindName : Scalar → String
  | null => "NoneType"
  | bool _ => "bool"
  | int _ => "int"
  | float _ => "float"
  | text _ => "str"
  | bytes _ => "bytes"
  | date _ => "date"
  | moment .. => "datetime"

/-- What a place of a table holds; the parts of a collection are given by their places. -/
inductive Cell
  | scalar (s : Scalar)
  | list (parts : List Nat)
  | tuple (parts : List Nat)
  | set (items : List Scalar)
  | map (entries : List (Scalar × Nat))

namespace Cell

instance : Inhabited Cell := ⟨scalar .null⟩

/-- The places of the parts that may have parts themselves. -/
def parts : Cell → List Nat
  | list ps | tuple ps => ps
  | map es => es.map Prod.snd
  | scalar _ | set _ => []

/-- The name of the kind of a cell in messages. -/
def kindName : Cell → String
  | scalar s => s.kindName
  | list _ => "list"
  | tuple _ => "tuple"
  | set _ => "set"
  | map _ => "dict"

end Cell

/-- A collection that contains itself: the cells that it is made of, and its own place. -/
structure Knot where
  cells : Array Cell
  place : Nat

namespace Knot

def cellAt (k : Knot) (place : Nat) : Cell := k.cells[place]?.getD default

def cell (k : Knot) : Cell := k.cellAt k.place

end Knot

/-- An object of the host, by what it tells of itself: the name of its class, its text on its own,
and its text inside a written list. It may refuse either text. -/
structure Foreign where
  className : String
  display : Option String
  quoted : Option String

inductive Value
  | scalar (s : Scalar)
  | list (items : List Value)
  | tuple (items : List Value)
  | set (items : List Value)
  | map (entries : List (Scalar × Value))
  | foreign (o : Foreign)
  /-- An object of the host that can be turned into some other value, most often a list. -/
  | arrayLike (o : Foreign) (inner : Value)
  | knot (k : Knot)

namespace Value

instance : Coe Scalar Value := ⟨scalar⟩

def null : Value := scalar .null

instance : Inhabited Value := ⟨null⟩

def text (s : String) : Value := scalar (.text s)
def texts (ss : List String) : Value := list (ss.map text)
def ofText? (s : Option String) : Value := (s.map text).getD null

/-- A mapping with names for its keys. -/
def ofFields (fields : List (String × Value)) : Value :=
  map (fields.map fun (name, v) => (.text name, v))

def isNull : Value → Bool
  | scalar .null => true
  | _ => false

/-- The value itself unless it is null. -/
def unlessNull (v : Value) : Option Value := if v.isNull then none else some v

/-- Null, false, zero and everything empty count as unset. -/
def isSet : Value → Bool
  | scalar .null => false
  | scalar (.bool b) => b
  | scalar (.int n) => n != 0
  | scalar (.float x) => !(x == 0.0)
  | scalar (.text s) => !s.isEmpty
  | scalar (.bytes bs) => !bs.isEmpty
  | scalar (.date _) | scalar (.moment ..) => true
  | list xs | tuple xs | set xs => !xs.isEmpty
  | map es => !es.isEmpty
  | foreign _ | arrayLike .. | knot _ => true

/-- The name of the kind of a value in messages. -/
def kindName : Value → String
  | scalar s => s.kindName
  | list _ => "list"
  | tuple _ => "tuple"
  | set _ => "set"
  | map _ => "dict"
  | foreign o | arrayLike o _ => o.className
  | knot k => k.cell.kindName

/-- The value of a cell, given those of its parts. -/
def ofCell (part : Nat → Value) : Cell → Value
  | .scalar s => scalar s
  | .list ps => list (ps.map part)
  | .tuple ps => tuple (ps.map part)
  | .set items => set (items.map scalar)
  | .map es => map (es.map fun (k, p) => (k, part p))

/-- Finds the values of cells from those that are known already, going from the last place to the
first, as parts mostly lie behind what they are parts of. -/
def sweep (cells : Array Cell) (known : Array (Option Value)) : Array (Option Value) :=
  (List.range cells.size).foldr (fun place known =>
    match known[place]?, cells[place]? with
    | some none, some cell =>
      let part (p : Nat) := known[p]?.join
      if cell.parts.all fun p => (part p).isSome then
        known.setIfInBounds place (some (ofCell (fun p => (part p).getD null) cell))
      else known
    | _, _ => known) known

/-- Sweeps as long as something new is found. What is not found then contains itself, or has a part
that does. -/
def settle (cells : Array Cell) : Nat → Array (Option Value) → Array (Option Value)
  | 0, known => known
  | fuel + 1, known =>
    let more := sweep cells known
    if more.countP Option.isSome = known.countP Option.isSome then known else settle cells fuel more

/-- The values of the cells that do not lead back to themselves. -/
def settled (cells : Array Cell) : Array (Option Value) :=
  settle cells cells.size (cells.map fun _ => none)

/-- The value at a place, which is a knot if it was not found. -/
def atPlace (cells : Array Cell) (known : Array (Option Value)) (place : Nat) : Value :=
  known[place]?.join.getD (knot ⟨cells, place⟩)

/-- The value of a cell in a table. -/
def ofCells (cells : Array Cell) (place : Nat) : Value := atPlace cells (settled cells) place

/-- A knot as a collection of its parts, which may be knots again; any other value as it is. -/
def opened : Value → Value
  | knot k => ofCell (atPlace k.cells (settled k.cells)) k.cell
  | v => v

/-- The first item of a list or tuple, which may be null and is null if there is none; any other
value stands for itself. -/
def first (v : Value) : Value :=
  match v.opened with
  | list xs | tuple xs => xs.head?.getD null
  | _ => v

/-- What one goes through in a value: the items of a collection, the keys of a mapping, the
characters of a text, or the bytes of a run of them as numbers. -/
def members? (v : Value) : Option (List Value) :=
  match v.opened with
  | list xs | tuple xs | set xs => some xs
  | map es => some (es.map fun (k, _) => scalar k)
  | scalar (.text s) => some (s.toList.map fun c => text (String.singleton c))
  | scalar (.bytes bs) => some (bs.map fun b => scalar (.int b.toNat))
  | _ => none

/-- Looks up an entry of a mapping under a text. -/
def lookup? (es : List (Scalar × Value)) (key : String) : Option Value :=
  (es.find? fun (k, _) => k = .text key).map Prod.snd

/-- A missing entry counts as null. -/
def lookup (es : List (Scalar × Value)) (key : String) : Value := (lookup? es key).getD null

end Value

/-- The properties of a note, by name. -/
abbrev Properties := List (String × Value)

namespace Properties

/-- A missing property counts as null. -/
def get (props : Properties) (field : String) : Value :=
  ((props.find? fun (name, _) => name = field).map Prod.snd).getD .null

def toValue (props : Properties) : Value := .ofFields props

end Properties
end NotePlot
