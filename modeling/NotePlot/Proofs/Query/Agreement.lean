import NotePlot.Proofs.Query.FailFast
import NotePlot.Proofs.Selection.Passing
import NotePlot.Proofs.Timeline.Bars
import NotePlot.Proofs.Plot.Notes
/-! Charts of one feed agree: tables, metrics, timelines and plots are all about the notes that pass
the feed, and notes that do not pass make no difference to any of them. -/
namespace NotePlot

open Outcome

variable {e : Engine} {now : Value} {source : Source} {c : Chart} {notes passed : List Note}
  {r : Result} {rows : List (Row Float)} {feed : Feed} {conditions : List Condition}
  {row : Row Float} {field : Option String} {wanted : Option Measure} {paths : List String}

namespace Headline

/-- The headline of a metric names all its notes; if it counts them, that is its height and its
value. -/
structure Heads (row : Row Float) (wanted : Option Measure) (passed : List Note) : Prop where
  notes : row.notes = passed.map (·.path)
  counts : wanted = some .countAll → row.x = .text "countAll"
  height : row.x = .text "countAll" → row.y = Float.ofInt passed.length
  value : row.x = .text "countAll" →
    row.properties.map (·.get "metric_value") = some (.scalar (.int passed.length))

theorem effective_countAll (type : PropertyType) (hasField : Bool) :
    Measure.effective (some .countAll) type hasField = .countAll := by
  cases hasField <;> cases type <;> rfl

theorem valueOf_countAll {m : Measure} {v : Value}
    (hm : Value.text (Choice.name m) = .text "countAll") (h : valueOf m field notes = .ok v) :
    v = .scalar (.int notes.length) := by
  cases m with
  | countAll =>
    cases h
    rfl
  | _ => simp [Value.text, Choice.name] at hm

theorem heads_row (h : Headline.row notes field wanted = .ok row) : Heads row wanted notes := by
  obtain ⟨type, -, h⟩ := bind_eq_ok.mp h
  obtain ⟨v, hv, h⟩ := bind_eq_ok.mp h
  cases h
  constructor
  case notes => rfl
  case counts =>
    rintro rfl
    change Value.text (Choice.name (Measure.effective (some .countAll) type _)) = _
    rw [effective_countAll]
    rfl
  case height =>
    intro hm
    rw [valueOf_countAll hm hv]
    rfl
  case value =>
    intro hm
    rw [valueOf_countAll hm hv]
    rfl

end Headline

namespace Engine

/-- What the rows of a chart say about the notes that pass its feed. A table has one row a note, a
metric one row for all; a timeline, like a plot that does not take values apart, names no note
twice; a plot that takes them apart and counts leaves no note out. -/
def Reports (e : Engine) (c : Chart) (passed : List Note) (rows : List (Row Float)) : Prop :=
  match c.type with
  | .table => rows.map (fun row => (row.x, row.notes, row.properties)) =
      passed.map fun note => (.text note.path, [note.path], some note.properties)
  | .metric => ∃ row, rows = [row] ∧ Headline.Heads row c.aggregation.measure passed
  | .gantt => (rows.flatMap (·.notes)).Subperm (passed.map (·.path))
  | _ =>
    (Category.isExploded c (e.settings .explodeChartTypes) = .ok true →
      c.aggregation.reduction = some .count →
        ∀ note ∈ passed, ∃ row ∈ rows, note.path ∈ row.notes) ∧
    (Category.isExploded c (e.settings .explodeChartTypes) = .ok false →
      (rows.flatMap (·.notes)).Subperm (passed.map (·.path)))

/-- Rows that name only notes with these paths. -/
def Within (rows : List (Row Float)) (paths : List String) : Prop :=
  ∀ row ∈ rows, ∀ path ∈ row.notes, path ∈ paths

theorem within_of_subset (h : rows.flatMap (·.notes) ⊆ paths) : Within rows paths :=
  fun _ hrow _ hpath => h (List.mem_flatMap.mpr ⟨_, hrow, hpath⟩)

theorem flatMap_notes_tableRow (notes : List Note) :
    (notes.map tableRow).flatMap (·.notes) = notes.map (·.path) := by
  rw [List.flatMap_map]
  exact (List.map_eq_flatMap).symm

theorem flatMap_notes_bars (bars : List Bar) :
    (bars.map Bar.row).flatMap (·.notes) = bars.map (·.path) := by
  rw [List.flatMap_map]
  exact (List.map_eq_flatMap).symm

/-- The points of a plot are made as the engine's settings say whether values are taken apart. -/
theorem points_reports (h : e.points c passed = .ok rows) :
    (Category.isExploded c (e.settings .explodeChartTypes) = .ok true →
      c.aggregation.reduction = some .count →
        ∀ note ∈ passed, ∃ row ∈ rows, note.path ∈ row.notes) ∧
    (Category.isExploded c (e.settings .explodeChartTypes) = .ok false →
      (rows.flatMap (·.notes)).Subperm (passed.map (·.path))) ∧
    Within rows (passed.map (·.path)) := by
  obtain ⟨exploded, hexploded, h⟩ := bind_eq_ok.mp h
  have hperm := Chart.flatMap_notes_perm_paths h
  refine ⟨fun he hc note hn => ?_, fun he => ?_, within_of_subset fun path hp => ?_⟩
  · cases hexploded.symm.trans he
    exact List.mem_flatMap.mp (hperm.mem_iff.mpr (Sighting.mem_paths_of_exploded rfl hc hn))
  · cases hexploded.symm.trans he
    exact hperm.subperm.trans (Sighting.paths_sublist rfl passed).subperm
  · obtain ⟨s, hs, rfl⟩ := List.mem_map.mp (hperm.mem_iff.mp hp)
    exact List.mem_map_of_mem (Sighting.note_of_mem hs)

theorem reports_resultOf (h : e.resultOf c passed = .ok r) :
    e.Reports c passed r.rows ∧ Within r.rows (passed.map (·.path)) := by
  unfold resultOf at h
  split at h
  next hc =>
    obtain ⟨bars, hbars, h⟩ := bind_eq_ok.mp h
    cases h
    have hsub := Encoding.paths_subperm hbars
    rw [← flatMap_notes_bars] at hsub
    exact ⟨by simpa only [Reports, hc] using hsub, within_of_subset hsub.subset⟩
  next hc =>
    cases h
    refine ⟨?_, within_of_subset fun _ hp => flatMap_notes_tableRow passed ▸ hp⟩
    simp only [Reports, hc, List.map_map]
    rfl
  next hc =>
    obtain ⟨row, hrow, h⟩ := bind_eq_ok.mp h
    cases h
    have hhead := Headline.heads_row hrow
    refine ⟨?_, ?_⟩
    · simp only [Reports, hc]
      exact ⟨row, rfl, hhead⟩
    · intro row' hmem path hpath
      obtain rfl := List.mem_singleton.mp hmem
      exact hhead.notes ▸ hpath
  next hgantt htable hmetric =>
    obtain ⟨rows, hrows, h⟩ := bind_eq_ok.mp h
    cases h
    obtain ⟨hall, honce, hin⟩ := points_reports hrows
    refine ⟨?_, hin⟩
    unfold Reports
    split
    next hc => exact (htable hc).elim
    next hc => exact (hmetric hc).elim
    next hc => exact (hgantt hc).elim
    next _ => exact ⟨hall, honce⟩

theorem run_eq_ok_iff : e.run source c now = .ok r ↔ ∃ conditions notes passed,
    c.check = .ok () ∧
      Clause.readAll ⟨now, e.phrases⟩ e.dateFields.includes c.feed.clauses = .ok conditions ∧
        source.snapshot = .ok notes ∧ (e.selection c.feed conditions).filter notes = .ok passed ∧
          e.resultOf c passed = .ok r := by
  simp only [run, bind_eq_ok, prepare_eq_ok_iff]
  constructor
  · rintro ⟨conditions, ⟨hc, hk⟩, notes, hs, passed, hp, h⟩
    exact ⟨conditions, notes, passed, hc, hk, hs, hp, h⟩
  · rintro ⟨conditions, notes, passed, hc, hk, hs, hp, h⟩
    exact ⟨conditions, ⟨hc, hk⟩, notes, hs, passed, hp, h⟩

/-- All charts of one feed on one source are about the same notes, those that pass the feed: tables
and metrics show them all in their order, plots that take values apart and count leave none of them
out, timelines and other plots repeat none, and none shows anything else. So the source may as well
leave out notes that do not pass. -/
theorem run_agrees (hs : source.snapshot = .ok notes)
    (hk : Clause.readAll ⟨now, e.phrases⟩ e.dateFields.includes feed.clauses = .ok conditions) :
    ∀ c r, c.feed = feed → e.run source c now = .ok r →
      e.Reports c ((e.selection feed conditions).passing notes) r.rows ∧
      Within r.rows (((e.selection feed conditions).passing notes).map (·.path)) ∧
      ∀ other fewer, other.snapshot = .ok fewer →
        ((e.selection feed conditions).passing notes).Sublist fewer → fewer.Sublist notes →
          e.run other c now = .ok r := by
  rintro c r rfl h
  obtain ⟨conditions', notes', passed, hcheck, hk', hs', hp, hr⟩ := run_eq_ok_iff.mp h
  obtain rfl := Except.ok.inj (hk'.symm.trans hk)
  obtain rfl := Except.ok.inj (hs'.symm.trans hs)
  obtain ⟨-, rfl⟩ := Selection.filter_eq_ok_iff.mp hp
  obtain ⟨hreports, hwithin⟩ := reports_resultOf hr
  refine ⟨hreports, hwithin, fun other fewer hother hin hout => ?_⟩
  exact run_eq_ok_iff.mpr ⟨conditions', fewer, _, hcheck, hk, hother,
    Selection.filter_of_sublist hp hin hout, hr⟩

def openNote : Note := ⟨"a.md", [("status", .text "open")]⟩

def doneNote : Note := ⟨"b.md", [("status", .text "done")]⟩

def bothNotes : Source := .host [.ready openNote, .ready doneNote]

def openFeed : Feed := ⟨[], [], ["status == open"]⟩

def openConditions : List Condition := [⟨"status", .eq, .text "open", .text, none⟩]

/-- How many notes are open. -/
def openCount : Chart :=
  { openTable with
    type := .metric
    feed := openFeed
    aggregation := ⟨none, false, .null, some .countAll⟩ }

theorem run_agrees_openCount : bothNotes.snapshot = .ok [openNote, doneNote] ∧
    Clause.readAll ⟨.null, .ofYear 2024⟩ DateFields.usual.includes openFeed.clauses =
      .ok openConditions ∧
    ∃ r, (usual (.ofYear 2024)).run bothNotes openCount .null = .ok r ∧
      (usual (.ofYear 2024)).Reports openCount [openNote] r.rows ∧ Within r.rows ["a.md"] ∧
        (usual (.ofYear 2024)).run (.host [.ready openNote]) openCount .null = .ok r := by
  have hs : bothNotes.snapshot = .ok [openNote, doneNote] := rfl
  have hk : Clause.readAll ⟨.null, .ofYear 2024⟩ DateFields.usual.includes openFeed.clauses =
    .ok openConditions := rfl
  have hfilter : ((usual (.ofYear 2024)).selection openCount.feed openConditions).filter
    [openNote, doneNote] = .ok [openNote] := rfl
  obtain ⟨r, hr⟩ : ∃ r, (usual (.ofYear 2024)).resultOf openCount [openNote] = .ok r := ⟨_, rfl⟩
  have hrun := run_eq_ok_iff.mpr
    ⟨openConditions, [openNote, doneNote], [openNote], rfl, hk, hs, hfilter, hr⟩
  obtain ⟨hreports, hwithin, hfewer⟩ := run_agrees hs hk openCount r rfl hrun
  rw [← (Selection.filter_eq_ok_iff.mp hfilter).2] at hreports hwithin hfewer
  exact ⟨hs, hk, r, hrun, hreports, hwithin,
    hfewer (.host [.ready openNote]) [openNote] rfl (.refl _) (.cons_cons _ (.cons _ .slnil))⟩

end Engine
end NotePlot
