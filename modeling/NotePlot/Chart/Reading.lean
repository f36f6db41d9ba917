import NotePlot.Chart.Basic
import NotePlot.Value.Written
import NotePlot.Text.Basic
import NotePlot.Text.LetterCase
import NotePlot.Yaml.Assembly
/-! Charts read from specifications, mappings with a section for each part of a chart, and written
as such, with every key in its place. -/
namespace NotePlot

open Text

/-- The entries of a mapping. -/
abbrev Entries := List (Scalar × Value)

namespace Chart

/-- A text or list of texts under a name; null items of a list do not count. -/
def texts (es : Entries) (part key : String) : Outcome (List String) :=
  match (Value.lookup es key).opened with
  | .scalar .null => .ok []
  | .scalar (.text s) => .ok [s]
  | .list xs | .tuple xs => displays xs
  | v => .error (.spec (.notStrings (part ++ "." ++ key) v.kindName))
where
  displays : List Value → Outcome (List String)
  | [] => .ok []
  | v :: rest =>
    if v.isNull then displays rest
    else do
      let s ← v.display
      return s :: (← displays rest)

/-- A section of a specification, empty if it is null. -/
def entries (es : Entries) (part : String) : Outcome Entries :=
  match (Value.lookup es part).opened with
  | .scalar .null => .ok []
  | .map inner => .ok inner
  | v => .error (.spec (.notSection part v.kindName))

/-- The text of a value without blanks at its ends; nothing is left of a blank one. -/
def label? (es : Entries) (key : String) : Outcome (Option String) := do
  let v := Value.lookup es key
  if v.isNull then return none
  let s := strip (← v.display)
  return if s.isEmpty then none else some s

/-- The property that a value names, under the same rule. -/
def field? (es : Entries) (key : String) : Outcome (Option FieldName) := do
  return (← label? es key).bind FieldName.of?

/-- A choice by its name, if one is named. -/
def choice? (α : Type) [Choice α] (es : Entries) (what key : String) : Outcome (Option α) := do
  match ← label? es key with
  | none => return none
  | some name =>
    match Choice.ofName? name with
    | some a => return some a
    | none => throw (.spec (.unknownChoice what name (Choice.names α)))

def readFeed (es : Entries) : Outcome Feed := do
  let folders ← texts es "source" "paths"
  let tags ← texts es "source" "tags"
  let clauses ← texts es "source" "where"
  return ⟨folders, tags, clauses⟩

def readEncoding (es : Entries) : Outcome Encoding := do
  let x ← field? es "x"
  let y ← field? es "y"
  let series ← field? es "series"
  let start ← field? es "start"
  let finish ← field? es "end"
  let due ← field? es "due"
  let scheduled ← field? es "scheduled"
  let duration ← field? es "duration"
  let group ← field? es "group"
  let label ← field? es "label"
  return ⟨x, y, series, start, finish, due, scheduled, duration, group, label⟩

def readAggregation (es : Entries) : Outcome Aggregation := do
  let reduction ← choice? Reduction es "aggregate.y" "y"
  let measure ← choice? Measure es "aggregate.metric" "metric"
  match Value.lookup es "rolling" with
  | .scalar (.bool _) => throw (.spec .windowIsBoolean)
  | rolling => return ⟨reduction, (Value.lookup es "cumulative").isSet, rolling, measure⟩

/-- The direction "desc" in letters of either case; everything else means the usual one. -/
def readDirection (es : Entries) : Outcome Direction := do
  let s ← ((Value.lookup? es "x").getD (.text "asc")).display
  return if lower (strip s) = "desc" then .descending else .ascending

/-- A bucket by its name in letters of either case, under either spelling of the key. -/
def readBucket (es : Entries) : Outcome Bucket := do
  let v := (Value.lookup? es "x_bucket").getD ((Value.lookup? es "xBucket").getD (.text "none"))
  let name := lower (strip (← v.display))
  match Choice.ofName? name with
  | some b => return b
  | none => throw (.spec (.unknownChoice "options.x_bucket" name (Choice.names Bucket)))

def readTitle (es : Entries) : Outcome String :=
  let v := Value.lookup es "title"
  if v.isSet then v.display else .ok ""

def readExplode (es : Entries) : Option Bool :=
  let v := (Value.lookup? es "multi_value").getD (Value.lookup es "multiValue")
  if v.isNull then none else some v.isSet

/-- Reads a specification. Sections are read in a fixed order, and the first fault is reported. -/
def ofValue (v : Value) : Outcome Chart :=
  match v.opened with
  | .map es => do
    let some type ← choice? ChartType es "chart type" "type" | throw (.spec .typeMissing)
    let feed ← readFeed (← entries es "source")
    let encoding ← readEncoding (← entries es "encoding")
    let aggregation ← readAggregation (← entries es "aggregate")
    let direction ← readDirection (← entries es "sort")
    let options ← entries es "options"
    let bucket ← readBucket options
    let title ← readTitle options
    return ⟨type, feed, encoding, aggregation, direction, title, readExplode options, bucket⟩
  | _ => .error (.spec .notMapping)

/-- Reads a specification out of a document. -/
def ofText (read : Yaml.Reader) (text : String) : Outcome Chart :=
  match read text with
  | .error .malformed => .error (.spec .unreadable)
  | .error (.failure f) => .error f
  | .ok v => if v.isSet then ofValue v else .error (.spec .empty)

end Chart

def Value.ofChoice? {α : Type} [Choice α] (a : Option α) : Value := ofText? (a.map Choice.name)

def Value.ofField? (f : Option FieldName) : Value := ofText? (f.map FieldName.text)

open Value

def Feed.toValue (f : Feed) : Value :=
  ofFields [("paths", texts f.folders), ("tags", texts f.tags), ("where", texts f.clauses)]

def Encoding.toValue (e : Encoding) : Value :=
  ofFields [("x", ofField? e.x), ("y", ofField? e.y), ("series", ofField? e.series),
    ("start", ofField? e.start), ("end", ofField? e.finish), ("due", ofField? e.due),
    ("scheduled", ofField? e.scheduled), ("duration", ofField? e.duration),
    ("group", ofField? e.group), ("label", ofField? e.label)]

def Aggregation.toValue (a : Aggregation) : Value :=
  ofFields [("y", ofChoice? a.reduction), ("cumulative", scalar (.bool a.cumulative)),
    ("rolling", a.rolling), ("metric", ofChoice? a.measure)]

def Chart.toValue (c : Chart) : Value :=
  ofFields [("type", text (Choice.name c.type)), ("source", c.feed.toValue),
    ("encoding", c.encoding.toValue), ("aggregate", c.aggregation.toValue),
    ("sort", ofFields [("x", text (Choice.name c.direction))]),
    ("options", ofFields [("title", text c.title),
      ("multi_value", (c.explode.map fun b => scalar (.bool b)).getD null),
      ("x_bucket", text (Choice.name c.bucket))])]

end NotePlot
