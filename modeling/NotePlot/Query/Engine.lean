import NotePlot.Note.Basic
import NotePlot.Selection.Basic
import NotePlot.Clause.Reading
import NotePlot.Plot.Points
import NotePlot.Timeline.Bars
import NotePlot.Metric.Headline
import NotePlot.Settings.Basic
import NotePlot.Chart.Reading
/-! The engine that answers charts: it checks a chart, reads its clauses, takes the notes that there
are, selects those that are meant, and makes the rows of the chart's type. -/
namespace NotePlot

structure Engine where
  settings : Settings
  dateFields : DateFields
  phrases : Phrases

namespace Engine

/-- The texts of a setting in lower case; a member that is no text is a failure. -/
def lowered : List Value → Outcome (List String)
  | [] => .ok []
  | .scalar (.text s) :: rest => do return Text.lower s :: (← lowered rest)
  | _ :: _ => .error .partMissing

def loweredSetting (v : Value) : Outcome (List String) :=
  match v.members? with
  | some members => lowered members
  | none => .error .wrongKind

def ofSettings (phrases : Phrases) (s : Settings) : Outcome Engine := do
  let names ← loweredSetting (s .dateFieldNames)
  let suffixes ← loweredSetting (s .dateFieldSuffixes)
  return ⟨s, ⟨names, suffixes⟩, phrases⟩

/-- Settings of a host, taken as they are; unknown names are passed over. -/
def adjusted (s : Settings) (given : List (Scalar × Value)) : Settings :=
  given.foldl (fun s (k, v) => match SettingKey.ofScalar? k with
    | some key => s.set key v
    | none => s) s

/-- An engine of a host that names settings and, over these, the folders to look in. -/
def ofHost (phrases : Phrases) (given : List (Scalar × Value)) (folders : Option Value) :
    Outcome Engine := do
  let s := adjusted .usual given
  match folders with
  | none => ofSettings phrases s
  | some v =>
    match v.members? with
    | some members => ofSettings phrases (s.set .defaultPaths (.list members))
    | none => throw .wrongKind

variable (e : Engine)

/-- Which notes a chart is about; a chart without folders looks in those of the settings. -/
def selection (feed : Feed) (conditions : List Condition) : Selection where
  folders := if feed.folders.isEmpty then e.settings .defaultPaths else .texts feed.folders
  tags := feed.tags.map Value.text
  conditions := conditions

/-- One row a note, with its properties. -/
def tableRow (note : Note) : Row Float :=
  .plain (.text note.path) 0.0 [note.path] none (some note.properties)

def points (c : Chart) (notes : List Note) : Outcome (List (Row Float)) := do
  let exploded ← Category.isExploded c (e.settings .explodeChartTypes)
  c.points ⟨exploded, e.settings .missingLabel, e.settings .transformChartTypes⟩ notes

/-- The result of a chart on the notes that were selected. -/
def resultOf (c : Chart) (notes : List Note) : Outcome Result :=
  match c.type with
  | .gantt => do
    let bars ← c.encoding.bars e.phrases (e.settings .defaultBlockMinutes) notes
    return ⟨bars.map Bar.row, c.encoding.label.or c.encoding.x, c.encoding.finish⟩
  | .table => .ok ⟨notes.map tableRow, c.encoding.x, c.encoding.y⟩
  | .metric => do
    let field := c.encoding.y.or c.encoding.x
    let row ← Headline.row notes (field.map FieldName.text) c.aggregation.measure
    return ⟨[row], field, field⟩
  | _ => do return ⟨← e.points c notes, c.encoding.x, c.encoding.y⟩

/-- What can be told of a chart before any note is read. -/
def prepare (c : Chart) (now : Value) : Outcome (List Condition) := do
  match c.check with
  | .error fault => throw (.channel fault)
  | .ok () => Clause.readAll ⟨now, e.phrases⟩ e.dateFields.includes c.feed.clauses

/-- Answers a chart. -/
def run (source : Source) (c : Chart) (now : Value) : Outcome Result := do
  let conditions ← e.prepare c now
  let notes ← source.snapshot
  e.resultOf c (← (e.selection c.feed conditions).filter notes)

/-- Answers a specification as a host gives it. -/
def runGiven (source : Source) (spec now : Value) : Outcome Result := do
  e.run source (← Chart.ofValue (.map (← spec.entries))) now

end Engine
end NotePlot
