import NotePlot.Query.Engine
import NotePlot.Proofs.Plot.Points
import NotePlot.Proofs.Value.Resistance
/-! What the results of charts can fail for, once their notes are selected: values that resist, a
setting that cannot be used, and a wish for running sums or means that cannot be met. -/
namespace NotePlot

open Outcome

variable {phrases : Phrases} {P : Failure → Prop} {props : Properties} {notes : List Note}
  {field : Option FieldName}

/-- A channel shows a property, or null. -/
theorem Properties.ResistOnly.channel (h : props.ResistOnly phrases P)
    (field : Option FieldName) :
    (Observation.channel props field).ResistsOnly phrases P := by
  cases field with
  | none => exact Value.resistsOnly_null
  | some field => exact h.get field.text

namespace Observation

variable {c : Chart} {exploded : Bool} {missing v : Value} {vs : List Value}

theorem failsOnly_height? (h : props.ResistOnly phrases P) : FailsOnly P (height? c props) := by
  rw [height?_eq]
  exact failsOnly_ite (failsOnly_ok _) (h.channel _).firstNumber

theorem failsOnly_series? (h : props.ResistOnly phrases P) : FailsOnly P (series? c props) := by
  unfold series?
  split
  · exact failsOnly_ok _
  · exact failsOnly_bind (h.channel _).firstPlain fun _ _ => failsOnly_ok _

theorem failsOnly_ofBucketed {b : Bucket} (h : FailsOnly P v.plain) :
    FailsOnly P (Position.ofBucketed b v) := by
  unfold Position.ofBucketed
  split
  · exact failsOnly_ok _
  · unfold Position.ofValue
    split
    · exact failsOnly_ite (failsOnly_ok _) (failsOnly_ok _)
    · exact failsOnly_ok _
    · exact failsOnly_ok _
    · exact failsOnly_bind h fun _ _ => failsOnly_ok _

theorem failsOnly_atPositions (hvs : ∀ v ∈ vs, FailsOnly P v.plain) (y : Number)
    (series : Option String) (note : Note) : FailsOnly P (atPositions c y series note vs) := by
  induction vs with
  | nil => exact failsOnly_ok _
  | cons v vs ih =>
    obtain ⟨hv, hrest⟩ := List.forall_mem_cons.mp hvs
    exact failsOnly_bind (failsOnly_ofBucketed hv) fun _ _ =>
      failsOnly_bind (ih hrest) fun _ _ => failsOnly_ok _

/-- The parts of a value are texts, so that on the x axis only a value as a whole resists. -/
theorem failsOnly_values (h : props.ResistOnly phrases P) (hm : FailsOnly P missing.plain) :
    ∀ v ∈ values c exploded missing props, FailsOnly P v.plain := by
  intro v hv
  unfold values Category.explode at hv
  dsimp only at hv
  split at hv
  · split at hv
    · obtain rfl := List.mem_singleton.mp hv
      exact hm
    · obtain ⟨cs, -, rfl⟩ := List.mem_map.mp hv
      exact failsOnly_of_ok (show (Value.text (String.ofList cs)).plain = .ok _ from rfl)
  · unfold Value.unlessNull at hv
    split at hv
    · cases hv
    · obtain rfl := List.mem_singleton.mp hv
      exact (h.channel _).firstPlain

theorem failsOnly_ofNotes (hn : ∀ note ∈ notes, note.properties.ResistOnly phrases P)
    (hm : FailsOnly P missing.plain) : FailsOnly P (ofNotes c exploded missing notes) := by
  have ofNote {note : Note} (h : note.properties.ResistOnly phrases P) :
      FailsOnly P (ofNote c exploded missing note) := by
    refine failsOnly_bind (failsOnly_height? h) fun y _ => ?_
    split
    · exact failsOnly_ok _
    · split
      · exact failsOnly_ok _
      · exact failsOnly_bind (failsOnly_series? h) fun _ _ =>
          failsOnly_atPositions (failsOnly_values h hm) _ _ _
  induction notes with
  | nil => exact failsOnly_ok _
  | cons note rest ih =>
    obtain ⟨hhead, hrest⟩ := List.forall_mem_cons.mp hn
    exact failsOnly_bind (ofNote hhead) fun _ _ =>
      failsOnly_bind (ih hrest) fun _ _ => failsOnly_ok _

end Observation

/-- What is sorted has been written before, so that sorting cannot fail. -/
theorem Chart.failsOnly_points {c : Chart} {style : PlotStyle}
    (hc : FailsOnly P (Window.check c style.runningTypes))
    (hn : ∀ note ∈ notes, note.properties.ResistOnly phrases P)
    (hm : FailsOnly P style.missing.plain)
    (hr : ∀ rows, FailsOnly P (c.run rows)) : FailsOnly P (c.points style notes) := by
  refine failsOnly_bind hc fun _ _ => ?_
  refine failsOnly_bind (Observation.failsOnly_ofNotes hn hm) fun os hos => ?_
  refine failsOnly_ite (failsOnly_ok _) ?_
  obtain ⟨sorted, hsorted, -⟩ := c.sort_unsorted (Observation.sound_ofNotes hos)
  exact failsOnly_bind_of_ok hsorted (hr sorted)

namespace Bar

variable {e : Encoding} {block : Value}

theorem channel_eq (props : Properties) (field : Option FieldName) :
    channel props field = (Observation.channel props field).first := by
  cases field <;> rfl

theorem failsOnly_date (h : props.ResistOnly phrases P) :
    FailsOnly P (date phrases props field) := by
  rw [date, channel_eq]
  exact (h.channel field).firstMoment

theorem failsOnly_startOf (h : props.ResistOnly phrases P) :
    FailsOnly P (startOf phrases e props) := by
  refine failsOnly_bind (failsOnly_date h) fun m _ => ?_
  split
  · exact failsOnly_ok _
  · exact failsOnly_date h

theorem failsOnly_duration (h : props.ResistOnly phrases P) :
    FailsOnly P (channel props field).number := by
  rw [channel_eq]
  exact (h.channel field).firstNumber

theorem failsOnly_plain (h : props.ResistOnly phrases P) :
    FailsOnly P (channel props field).plain := by
  rw [channel_eq]
  exact (h.channel field).firstPlain

theorem failsOnly_labelOf {note : Note} (h : note.properties.ResistOnly phrases P) :
    FailsOnly P (labelOf e note) :=
  failsOnly_ite (failsOnly_ok _) (failsOnly_bind (failsOnly_plain h) fun _ _ => failsOnly_ok _)

theorem failsOnly_seriesOf (h : props.ResistOnly phrases P) : FailsOnly P (seriesOf e props) := by
  unfold seriesOf
  split
  · exact failsOnly_ok _
  · exact failsOnly_map (failsOnly_plain h)

/-- A duration is a number, and so it has a span, be it too long for one. -/
theorem failsOnly_ofDates (hb : FailsOnly P (Interval.lengthOf block))
    (start finish due : Option Moment) (duration : Option Number) :
    FailsOnly P (Interval.ofDates start finish due (Number.toValue duration) block) := by
  have hcounts : ∃ b, Interval.counts (Number.toValue duration) = .ok b := by
    cases duration <;> exact ⟨_, rfl⟩
  obtain ⟨hasDuration, hcounts⟩ := hcounts
  refine failsOnly_bind_of_ok hcounts (failsOnly_bind ?_ fun _ _ => failsOnly_ok _)
  cases hasDuration with
  | false => exact hb
  | true =>
    cases duration with
    | none => cases hcounts
    | some n => exact failsOnly_of_ok (if_neg (ne_true_of_eq_false n.isNumber))

theorem failsOnly_ofNotes (hn : ∀ note ∈ notes, note.properties.ResistOnly phrases P)
    (hb : FailsOnly P (Interval.lengthOf block)) : FailsOnly P (ofNotes phrases e block notes) := by
  have ofNote {note : Note} (h : note.properties.ResistOnly phrases P) :
      FailsOnly P (ofNote phrases e block note) := by
    refine failsOnly_bind (failsOnly_startOf h) fun start _ => ?_
    refine failsOnly_bind (failsOnly_date h) fun finish _ => ?_
    refine failsOnly_bind (failsOnly_date h) fun due _ => ?_
    refine failsOnly_bind (failsOnly_duration h) fun duration _ => ?_
    refine failsOnly_bind (failsOnly_ofDates hb _ _ _ _) fun interval _ => ?_
    split
    · exact failsOnly_ok _
    · exact failsOnly_bind (failsOnly_labelOf h) fun _ _ =>
        failsOnly_bind (failsOnly_seriesOf h) fun _ _ => failsOnly_ok _
  induction notes with
  | nil => exact failsOnly_ok _
  | cons note rest ih =>
    obtain ⟨hhead, hrest⟩ := List.forall_mem_cons.mp hn
    exact failsOnly_bind (ofNote hhead) fun _ _ =>
      failsOnly_bind (ih hrest) fun _ _ => failsOnly_ok _

end Bar

namespace Headline

theorem failsOnly_sample (hn : ∀ note ∈ notes, note.properties.ResistOnly phrases P)
    (field : String) (n : Nat) : FailsOnly P (PropertyType.sample field n notes) := by
  induction notes generalizing n with
  | nil => cases n <;> exact failsOnly_ok _
  | cons note rest ih =>
    obtain ⟨hhead, hrest⟩ := List.forall_mem_cons.mp hn
    cases n with
    | zero => exact failsOnly_ok _
    | succ n =>
      refine failsOnly_bind (hhead.get field).firstKinded fun k _ => ?_
      split
      · exact ih hrest _
      · exact failsOnly_bind (ih hrest _) fun _ _ => failsOnly_ok _

theorem failsOnly_spoken (hn : ∀ note ∈ notes, note.properties.ResistOnly phrases P)
    (field : String) :
    FailsOnly P (spoken field notes) := by
  induction notes with
  | nil => exact failsOnly_ok _
  | cons note rest ih =>
    obtain ⟨hhead, hrest⟩ := List.forall_mem_cons.mp hn
    refine failsOnly_bind (hhead.get field).firstKinded fun k _ => ?_
    split
    · exact ih hrest
    · exact failsOnly_bind (ih hrest) fun _ _ => failsOnly_ok _

theorem failsOnly_row (hn : ∀ note ∈ notes, note.properties.ResistOnly phrases P)
    (field : Option String) (wanted : Option Measure) : FailsOnly P (row notes field wanted) := by
  have detect (field : Option String) : FailsOnly P (PropertyType.detect field notes) := by
    cases field with
    | none => exact failsOnly_ok _
    | some field => exact failsOnly_bind (failsOnly_sample hn _ _) fun _ _ => failsOnly_ok _
  have valueOf (m : Measure) (field : Option String) : FailsOnly P (valueOf m field notes) := by
    unfold Headline.valueOf
    split
    · exact failsOnly_ok _
    · exact failsOnly_bind (failsOnly_spoken hn _) fun _ _ => failsOnly_ok _
    · exact failsOnly_ok _
  exact failsOnly_bind (detect _) fun _ _ => failsOnly_bind (valueOf _ _) fun _ _ => failsOnly_ok _

end Headline

/-- Once its notes are selected, a chart fails for the values in them, if not for a setting or for a
run of its rows. -/
theorem Engine.failsOnly_resultOf {e : Engine} {c : Chart}
    (hn : ∀ note ∈ notes, note.properties.ResistOnly e.phrases P)
    (hb : FailsOnly P (Interval.lengthOf (e.settings .defaultBlockMinutes)))
    (hm : FailsOnly P (e.settings .missingLabel).plain)
    (hp : c.isPlotted → FailsOnly P (Category.isExploded c (e.settings .explodeChartTypes)) ∧
      FailsOnly P (Window.check c (e.settings .transformChartTypes)))
    (hr : ∀ rows, FailsOnly P (c.run rows)) : FailsOnly P (e.resultOf c notes) := by
  unfold resultOf
  split
  next =>
    refine failsOnly_bind (failsOnly_bind ?_ fun _ _ => failsOnly_ok _) fun _ _ => failsOnly_ok _
    exact Bar.failsOnly_ofNotes hn hb
  next => exact failsOnly_ok _
  next => exact failsOnly_bind (Headline.failsOnly_row hn _ _) fun _ _ => failsOnly_ok _
  next hgantt htable hmetric =>
    obtain ⟨hexploded, hcheck⟩ := hp (decide_eq_true ⟨htable, hgantt, hmetric⟩)
    refine failsOnly_bind (failsOnly_bind hexploded fun _ _ => ?_) fun _ _ => failsOnly_ok _
    exact Chart.failsOnly_points hcheck hn hm hr

theorem Interval.failsIn_lengthOf (minutes : Value) : FailsIn [.value] (lengthOf minutes) := by
  unfold lengthOf
  split
  · exact failsIn_ok _
  · exact failsIn_ok _
  · exact failsIn_ite (failsIn_error (by simp [Failure.area])) (failsIn_ok _)
  · exact failsIn_error (by simp [Failure.area])

namespace Window

theorem failsIn_texts (vs : List Value) : FailsIn [.value] (texts vs) := by
  induction vs with
  | nil => exact failsIn_ok _
  | cons v rest ih =>
    unfold texts
    split
    case h_1 => exact failsIn_ok _
    case h_2 h =>
      cases h
      exact failsIn_bind ih fun _ => failsIn_ok _
    case h_3 => exact failsIn_error (by simp [Failure.area])

theorem failsIn_fault (v : Value) : FailsIn [.running, .value] (fault v) :=
  failsIn_bind (v.failsIn_display.mono (by simp)) fun _ => failsIn_error (by simp [Failure.area])

theorem failsIn_read (v : Value) : FailsIn [.running, .value] (read v) := by
  unfold read
  split
  · exact failsIn_ok _
  · exact failsIn_ok _
  · exact failsIn_ite (failsIn_ite (failsIn_error (by simp [Failure.area])) (failsIn_ok _))
      (failsIn_ok _)
  · exact failsIn_ite (failsIn_fault _) (failsIn_range.mono (by simp))
  · exact failsIn_fault _

theorem failsIn_check (c : Chart) (types : Value) : FailsIn [.running, .value] (check c types) := by
  unfold check
  refine failsIn_ite (failsIn_ok _) ?_
  split
  case h_1 allowed _ =>
    have both : FailsIn [.running, .value]
        (if c.aggregation.cumulative && c.aggregation.rolling.isSet
          then (.error (.transform .both) : Outcome Unit) else .ok ()) :=
      failsIn_ite (failsIn_error (by simp [Failure.area])) (failsIn_ok _)
    refine failsIn_ite ?_ both
    refine failsIn_bind ((failsIn_texts allowed).mono (by simp)) fun names => ?_
    exact failsIn_bind (failsIn_error (by simp [Failure.area])) fun _ => both
  case h_2 => exact failsIn_error (by simp [Failure.area])

end Window

theorem Row.failsIn_averaged (window : Nat) (rows : List (Row Float)) :
    FailsIn [.value] (averaged window rows) :=
  failsIn_ite (failsIn_ok _) (failsIn_bind
    (failsIn_ite (failsIn_error (by simp [Failure.area])) (failsIn_ok _)) fun _ => failsIn_ok _)

theorem Chart.failsIn_run (c : Chart) (rows : List (Row Float)) :
    FailsIn [.running, .value] (c.run rows) :=
  failsIn_ite (failsIn_bind (Window.failsIn_read _) fun window =>
    (Row.failsIn_averaged window rows).mono (by simp)) (failsIn_ok _)

theorem Category.failsIn_isExploded (c : Chart) (types : Value) :
    FailsIn [.value] (isExploded c types) := by
  unfold isExploded
  split
  · exact failsIn_ok _
  · split
    · exact failsIn_ite (failsIn_ok _) (failsIn_error (by simp [Failure.area]))
    · exact failsIn_error (by simp [Failure.area])

/-- Once the notes are selected, no fault in the chart and none in its clauses comes to light. -/
theorem Engine.failsIn_resultOf (e : Engine) (c : Chart) (notes : List Note) :
    FailsIn [.running, .value] (e.resultOf c notes) := by
  have values (note : Note) :
      note.properties.ResistOnly e.phrases (·.area ∈ [.running, .value]) :=
    fun failure h => List.mem_cons_of_mem _ (note.properties.resistOnly_area e.phrases failure h)
  refine failsOnly_resultOf (fun note _ => values note) ?_ ?_ (fun _ => ⟨?_, ?_⟩) c.failsIn_run
  · exact (Interval.failsIn_lengthOf _).mono (by simp)
  · exact (Value.failsIn_plain _).mono (by simp)
  · exact (Category.failsIn_isExploded _ _).mono (by simp)
  · exact Window.failsIn_check _ _

end NotePlot
