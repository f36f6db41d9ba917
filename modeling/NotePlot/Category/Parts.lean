import NotePlot.Chart.Basic
import NotePlot.Value.Written
import NotePlot.Value.Pairs
import NotePlot.Text.Basic
/-! The parts of a value on the x axis, each of which may count as a category of its own. -/
namespace NotePlot.Category

open Text

/-- The text of a part without blanks at its ends; a part without a text has an empty one. -/
def label (v : Value) : List Char :=
  match v.plain with
  | .ok s => trim s.toList
  | .error _ => []

/-- The labels of items, without null and blank ones. -/
def labels (items : List Value) : List (List Char) :=
  ((items.filter (!·.isNull)).map label).filter (!·.isEmpty)

/-- The items of a collection, the words of a text, and any other value as a whole. An object of the
host has parts only if it can be turned into a list. -/
def parts (v : Value) : List (List Char) :=
  match v.opened with
  | .list xs | .tuple xs | .set xs => labels xs
  | .scalar (.text s) => words s.toList
  | .arrayLike _ inner =>
    match inner.opened with
    | .list xs | .tuple xs => labels xs
    | _ => labels [v]
  | _ => labels [v]

/-- The categories of a value; one without parts has a category for missing values. -/
def explode (v missing : Value) : List Value :=
  match parts v with
  | [] => [missing]
  | ps => ps.map fun cs => .text (String.ofList cs)

/-- Whether the parts of values count one by one: as the chart says, else by its type. -/
def isExploded (c : Chart) (types : Value) : Outcome Bool :=
  match c.explode with
  | some b => .ok b
  | none =>
    match types.members? with
    | some members =>
      if members.all Value.isHashable then .ok (c.type.isAmong members) else .error .wrongKind
    | none => .error .wrongKind

def usualMissing : String := "(missing)"
def usualTypes : List String := ["pie"]

end NotePlot.Category
