import NotePlot.Proofs.Category.Bucket
import NotePlot.Proofs.Clause.Order
import NotePlot.Proofs.Plot.Notes

/-! Charts of one day: the notes that a comparison with the day lets pass are those whose value has
the label of the day, and so that label is all that a chart of them shows. -/
namespace NotePlot

variable {f : String} {props : Properties} {v : Value} {d : Date} {m : Moment} {c : Chart}
  {style : PlotStyle} {notes : List Note} {rows : List (Row Float)} {row : Row Float}

theorem Value.first_of_day? (h : v.day? = some d) : v.first = v := by
  cases v with
  | scalar s => rfl
  | _ => cases h

namespace Condition

/-- A comparison with a day passes the values that tell this day. -/
theorem exists_holds_day (f : String) (props : Properties) (m : Moment) :
    ∃ passes, (comparing f .eq (.date m)).holds props = .ok passes ∧
      (passes = true ↔ (props.get f).day? = some m.date) := by
  cases hv : (props.get f).day? with
  | none => exact ⟨false, holds_eq_false_of_day? rfl hv, by simp⟩
  | some d =>
    refine ⟨_, holds_comparing_date (by decide) hv, ?_⟩
    rw [Option.some.injEq, ← Date.number_inj]
    simp [Operator.admits]

end Condition

namespace Chart

/-- Notes that all tell one day have their points at the label of this day. -/
theorem x_of_points_of_day? (hx : c.encoding.x.map FieldName.text = some f)
    (hb : c.bucket = .day) (hs : style.exploded = false)
    (hd : ∀ note ∈ notes, (note.properties.get f).day? = some d)
    (h : c.points style notes = .ok rows) (hrow : row ∈ rows) : row.x = .text d.dayLabel := by
  obtain ⟨s, hs', p, hp, hshown⟩ := exists_sighting_of_points h hrow
  obtain ⟨name, hname, rfl⟩ := Option.map_eq_some_iff.mp hx
  have hday := hd s.note (Sighting.note_of_mem hs')
  have hvalue : s.value = s.note.properties.get name.text := by
    rw [Sighting.value_of_mem hs hs', Observation.channel, hname]
    exact Value.first_of_day? hday
  have hlabel : Bucket.relabel? .day s.value = some d.dayLabel := by
    rw [hvalue, Bucket.relabel?, hday]
    rfl
  rw [hb, Position.ofBucketed, hlabel] at hp
  rw [← hshown, ← Except.ok.inj hp]
  rfl

end Chart

namespace Condition

/-- A comparison of a field with a day passes just those notes that the buckets of days label with
it. A chart of notes that pass, by days and not in parts, shows this label and no other. -/
theorem holds_eq_day_iff (h : 1000 ≤ m.date.year) :
    (∃ passes, (comparing f .eq (.date m)).holds props = .ok passes ∧
      (passes = true ↔ Bucket.day.relabel (props.get f) = .text m.date.iso)) ∧
    ∀ (c : Chart) (style : PlotStyle) (notes : List Note) (rows : List (Row Float)),
      c.encoding.x.map FieldName.text = some f → c.bucket = .day → style.exploded = false →
      (∀ note ∈ notes, (comparing f .eq (.date m)).holds note.properties = .ok true) →
      c.points style notes = .ok rows → ∀ row ∈ rows, row.x = .text m.date.iso := by
  constructor
  · obtain ⟨passes, hholds, hiff⟩ := exists_holds_day f props m
    exact ⟨passes, hholds, hiff.trans (Bucket.relabel_day_eq_iff h).symm⟩
  · intro c style notes rows hx hb hs hpass hpoints row hrow
    have hd : ∀ note ∈ notes, (note.properties.get f).day? = some m.date := by
      intro note hnote
      obtain ⟨passes, hholds, hiff⟩ := exists_holds_day f note.properties m
      rw [hpass note hnote] at hholds
      exact hiff.mp (Except.ok.inj hholds).symm
    rw [Chart.x_of_points_of_day? hx hb hs hd hpoints hrow, Date.dayLabel_eq_iso h]

/-- Notes counted by the day on which they are due. -/
def dueByDay : Chart :=
  { Chart.tagPie with encoding := { Chart.tagPie.encoding with x := FieldName.of? "due" } }

theorem holds_eq_day_iff_dueInMay :
    1000 ≤ (Moment.midnight { year := 2024, month := 5, day := 3 }).date.year ∧
    (∃ passes, (comparing "due" .eq (.date (.midnight { year := 2024, month := 5, day := 3 }))).holds
        dueInMay = .ok passes ∧
      (passes = true ↔ Bucket.day.relabel (dueInMay.get "due") = .text "2024-05-03")) ∧
    (comparing "due" .eq (.date (.midnight { year := 2024, month := 5, day := 3 }))).holds dueInMay =
      .ok true ∧
    ∃ rows, dueByDay.points {} [⟨"a.md", dueInMay⟩] = .ok rows ∧ rows ≠ [] ∧
      ∀ row ∈ rows, row.x = .text "2024-05-03" := by
  have hyear : 1000 ≤ (Moment.midnight { year := 2024, month := 5, day := 3 }).date.year := by decide
  obtain ⟨hpasses, hrows⟩ := @holds_eq_day_iff "due" dueInMay _ hyear
  have hholds : (comparing "due" .eq
      (.date (.midnight { year := 2024, month := 5, day := 3 }))).holds dueInMay = .ok true := rfl
  refine ⟨hyear, hpasses, hholds, ?_⟩
  have hread : ∀ note ∈ [(⟨"a.md", dueInMay⟩ : Note)], note.Readable dueByDay {} := by
    intro note hnote
    obtain rfl := List.mem_singleton.mp hnote
    refine ⟨fun h => (h rfl).elim, ⟨_, rfl⟩, ?_⟩
    intro v hv
    have hv : v ∈ [Value.text "2024-05-03T10:00"] := hv
    obtain rfl := List.mem_singleton.mp hv
    exact ⟨_, rfl⟩
  obtain ⟨os, rows, hos, hpoints, -, hpaths⟩ := Chart.points_of_readable rfl rfl hread
  refine ⟨rows, hpoints, ?_, ?_⟩
  · rintro rfl
    have hlength := hpaths.length_eq.trans (List.length_map _)
    rw [← hos.length_eq] at hlength
    cases hlength
  · refine hrows dueByDay {} _ rows rfl rfl rfl ?_ hpoints
    intro note hnote
    obtain rfl := List.mem_singleton.mp hnote
    exact hholds

end Condition
end NotePlot
