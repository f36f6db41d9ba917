import NotePlot.Value.Written
/-! Notes: a path, by which a note is known, and properties. An index holds one note a path, in the
order in which the paths came; a query takes its notes from one, or from a host that it asks anew.
-/
namespace NotePlot

structure Note where
  path : String
  properties : Properties

namespace Value

/-- The entries of a mapping that have a text for a name. A note declares its properties by texts:
an entry under any other key is none, as no field of a chart or of a clause could name it. -/
def properties (es : List (Scalar × Value)) : Properties :=
  es.filterMap fun (k, v) => match k with
    | .text name => some (name, v)
    | _ => none

end Value

namespace Note

/-- The properties in the raw form of a note. An entry called "properties" wins over one called
"props", even if it is null; whatever is unset stands for no properties. -/
def propertiesOf (path : String) (es : List (Scalar × Value)) : Outcome Properties :=
  let raw := (Value.lookup? es "properties").getD (Value.lookup es "props")
  match raw.opened with
  | .map props => .ok (Value.properties props)
  | _ => if raw.isSet then .error (.note (.propertiesNotMapping path)) else .ok []

/-- Reads the raw form of a note, a mapping with a path that is set. -/
def ofValue (v : Value) : Outcome Note :=
  match v.opened with
  | .map es => do
    let path := Value.lookup es "path"
    if !path.isSet then throw (.note .pathMissing)
    let path ← path.display
    return ⟨path, ← propertiesOf path es⟩
  | _ => .error .partMissing

end Note

structure Index where
  notes : List Note
  distinct : (notes.map Note.path).Nodup := by decide

namespace Index

def empty : Index where
  notes := []

instance : Inhabited Index := ⟨empty⟩

def paths (ix : Index) : List String := ix.notes.map Note.path
def size (ix : Index) : Nat := ix.notes.length
def contains (ix : Index) (path : String) : Bool := ix.paths.contains path
def get? (ix : Index) (path : String) : Option Note := ix.notes.find? (·.path == path)

/-- A note takes the place of the one with its path. -/
def replace (ns : List Note) (note : Note) : List Note :=
  ns.map fun n => if n.path = note.path then note else n

theorem map_path_replace (ns : List Note) (note : Note) :
    (replace ns note).map Note.path = ns.map Note.path := by
  rw [replace, List.map_map]
  refine List.map_congr_left fun n _ => ?_
  by_cases h : n.path = note.path <;> simp [h]

/-- A new path goes to the end; a known one keeps its place. -/
def upsert (ix : Index) (note : Note) : Index :=
  if h : ix.contains note.path then
    ⟨replace ix.notes note, by rw [map_path_replace]; exact ix.distinct⟩
  else
    ⟨ix.notes ++ [note], by
      simp only [List.map_append, List.map_cons, List.map_nil, List.nodup_append, List.nodup_cons]
      refine ⟨ix.distinct, by simp, fun a ha b hb hab => h ?_⟩
      rw [contains, paths, List.contains_iff_mem, ← List.mem_singleton.1 hb, ← hab]
      exact ha⟩

def erase (ix : Index) (path : String) : Index where
  notes := ix.notes.filter (·.path != path)
  distinct := ix.distinct.sublist ((List.filter_sublist ..).map _)

end Index

/-- A note as a host hands it over, read already or in its raw form. -/
inductive Supplied
  | ready (note : Note)
  | raw (v : Value)

def Supplied.note : Supplied → Outcome Note
  | ready note => .ok note
  | raw v => Note.ofValue v

/-- Reads notes in turn, up to the first that is malformed. -/
def Supplied.notes : List Supplied → Outcome (List Note)
  | [] => .ok []
  | item :: rest => do
    let note ← item.note
    return note :: (← notes rest)

/-- Adds notes in turn to an index. -/
def Index.ofSupplied (items : List Supplied) : Outcome Index := do
  return (← Supplied.notes items).foldl upsert empty

inductive Source
  | index (ix : Index)
  | host (items : List Supplied)

/-- All notes that there are now. A host may hand over a path twice, and may fail to hand over a
note; an index does neither. -/
def Source.snapshot : Source → Outcome (List Note)
  | index ix => .ok ix.notes
  | host items => Supplied.notes items

namespace Index

inductive Step
  | upsert (item : Supplied)
  | remove (path : String)
  | get (path : String)
  | contains (path : String)
  | all
  | size

inductive Answer
  | taken (note : Note)
  | found (note : Option Note)
  | truth (b : Bool)
  | notes (notes : List Note)
  | count (n : Nat)

/-- The index after a step, and the answer to it. What cannot be read as a note is refused, and
changes nothing. -/
def step (ix : Index) : Step → Index × Outcome Answer
  | .upsert item =>
    match item.note with
    | .ok note => (ix.upsert note, .ok (.taken note))
    | .error failure => (ix, .error failure)
  | .remove path => (ix.erase path, .ok (.truth (ix.contains path)))
  | .get path => (ix, .ok (.found (ix.get? path)))
  | .contains path => (ix, .ok (.truth (ix.contains path)))
  | .all => (ix, .ok (.notes ix.notes))
  | .size => (ix, .ok (.count ix.size))

theorem step_upsert_of_ok (ix : Index) {item : Supplied} {note : Note} (h : item.note = .ok note) :
    ix.step (.upsert item) = (ix.upsert note, .ok (.taken note)) := by
  simp only [step, h]

theorem step_upsert_of_error (ix : Index) {item : Supplied} {failure : Failure}
    (h : item.note = .error failure) : ix.step (.upsert item) = (ix, .error failure) := by
  simp only [step, h]

/-- The index after some steps. -/
def after (ix : Index) (steps : List Step) : Index := steps.foldl (fun ix s => (ix.step s).1) ix

end Index
end NotePlot
