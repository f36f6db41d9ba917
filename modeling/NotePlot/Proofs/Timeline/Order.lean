import NotePlot.Proofs.Failure.Result
import NotePlot.Proofs.Order.Stable
import NotePlot.Proofs.Timeline.Bars
import NotePlot.Proofs.Timeline.Interval
import Mathlib.Data.List.Permutation
/-! Timelines in their order: a note whose dates make an interval has one bar, any other note has
none, and the bars are sorted by their starts, those with one start being in the order of their
notes. -/
namespace NotePlot

open Outcome

variable {phrases : Phrases} {e : Encoding} {block : Value} {note : Note} {notes : List Note}
  {props : Properties} {bar : Bar} {bars : List Bar}

/-- A block that is a finite number of minutes, be it negative or zero. -/
inductive Interval.IsFiniteBlock : Value → Prop
  | int (n : Int) : IsFiniteBlock (.scalar (.int n))
  | bool (b : Bool) : IsFiniteBlock (.scalar (.bool b))
  | float {x : Float} (h : x.isFinite) : IsFiniteBlock (.scalar (.float x))

theorem Interval.IsFiniteBlock.exists_lengthOf (h : IsFiniteBlock block) :
    ∃ span?, lengthOf block = .ok span? := by
  cases h with
  | int n => exact ⟨_, rfl⟩
  | bool b => exact ⟨_, rfl⟩
  | @float x hx =>
    have hnumber : x.isNaN = false := by
      change x.toModel.unpack.isFinite = true at hx
      change x.toModel.unpack.isNaN = false
      cases hu : x.toModel.unpack with
      | notANumber =>
        rw [hu] at hx
        cases hx
      | infinity | zero | finite => rfl
    exact ⟨_, if_neg (ne_true_of_eq_false hnumber)⟩

namespace Bar

/-- The dates of a note make an interval. -/
def Spans (phrases : Phrases) (e : Encoding) (block : Value) (note : Note) (interval : Interval) :
    Prop :=
  ∃ told, Tells phrases e note.properties told ∧
    Interval.Reconstructs told.start told.finish told.due (Number.toValue told.duration) block
      interval

theorem spans_iff {interval : Interval} : Spans phrases e block note interval ↔
    ∃ told, Tells phrases e note.properties told ∧ told.interval? block = .ok (some interval) := by
  simp only [Spans, Dates.interval?, Interval.ofDates_eq_some_iff]

/-- Nothing that is read of a note fails. A label and a series are read only of a note that has an
interval. -/
structure Readable (phrases : Phrases) (e : Encoding) (block : Value) (note : Note) : Prop where
  dates : ∃ told, Tells phrases e note.properties told
  label : ∀ interval, Spans phrases e block note interval → ∃ label, labelOf e note = .ok label
  series : ∀ interval, Spans phrases e block note interval →
    ∃ series, seriesOf e note.properties = .ok series

/-- A row shows the interval of a note, from its start to its end, and names that note alone, with
its properties. -/
structure Shows (phrases : Phrases) (e : Encoding) (block : Value) (note : Note)
    (row : Row Float) : Prop where
  interval : ∃ interval, Spans phrases e block note interval ∧
    row.start = some interval.start ∧ row.finish = some interval.finish
  ordered : ∃ start finish, row.start = some start ∧ row.finish = some finish ∧ start ≤ finish
  notes : row.notes = [note.path]
  properties : row.properties = some note.properties
  due : date phrases note.properties e.due = .ok row.due
  label : labelOf e note = .ok row.x
  series : seriesOf e note.properties = .ok row.series
  height : row.y = 0.0

theorem Tells.unique {told other : Dates} (h : Tells phrases e props told)
    (ho : Tells phrases e props other) : told = other := by
  cases told
  cases other
  rw [Dates.mk.injEq]
  refine ⟨?_, ?_, ?_, ?_⟩
  · exact Except.ok.inj (h.start.symm.trans ho.start)
  · exact Except.ok.inj (h.finish.symm.trans ho.finish)
  · exact Except.ok.inj (h.due.symm.trans ho.due)
  · exact Except.ok.inj (h.duration.symm.trans ho.duration)

theorem Dates.exists_interval? (hb : Interval.IsFiniteBlock block) (told : Dates) :
    ∃ interval?, told.interval? block = .ok interval? := by
  obtain ⟨span?, hspan⟩ := hb.exists_lengthOf
  have hfails := failsOnly_ofDates (P := fun _ => False) (failsOnly_of_ok hspan)
    told.start told.finish told.due told.duration
  exact hfails.exists_ok fun _ => id

/-- A note has an answer, be it a bar or none, exactly if it is readable. -/
theorem exists_ofNote_iff (hb : Interval.IsFiniteBlock block) :
    (∃ bar?, ofNote phrases e block note = .ok bar?) ↔ Readable phrases e block note := by
  simp only [ofNote_eq_ok_iff]
  constructor
  · rintro ⟨bar?, h⟩
    cases h with
    | none ht hi =>
      have hnone : ∀ interval, ¬ Spans phrases e block note interval := by
        intro interval hspans
        obtain ⟨told, ht', hi'⟩ := spans_iff.mp hspans
        cases ht.unique ht'
        cases hi.symm.trans hi'
      exact ⟨⟨_, ht⟩, fun i hs => (hnone i hs).elim, fun i hs => (hnone i hs).elim⟩
    | some ht hi hl hs => exact ⟨⟨_, ht⟩, fun _ _ => ⟨_, hl⟩, fun _ _ => ⟨_, hs⟩⟩
  · intro h
    obtain ⟨told, ht⟩ := h.dates
    obtain ⟨interval?, hi⟩ := told.exists_interval? hb
    cases interval? with
    | none => exact ⟨none, .none ht hi⟩
    | some interval =>
      obtain ⟨label, hl⟩ := h.label interval (spans_iff.mpr ⟨told, ht, hi⟩)
      obtain ⟨series, hs⟩ := h.series interval (spans_iff.mpr ⟨told, ht, hi⟩)
      exact ⟨_, .some ht hi hl hs⟩

/-- The bar of a note, if it has one. -/
def ofNote? (phrases : Phrases) (e : Encoding) (block : Value) (note : Note) : Option Bar :=
  (ofNote phrases e block note).toOption.join

theorem ofNote?_of_ofNote {bar? : Option Bar} (h : ofNote phrases e block note = .ok bar?) :
    ofNote? phrases e block note = bar? := by
  rw [ofNote?, h]
  rfl

theorem ofNote?_eq_some_iff :
    ofNote? phrases e block note = some bar ↔ Makes phrases e block note (some bar) := by
  rw [← ofNote_eq_ok_iff]
  constructor
  · intro h
    unfold ofNote? at h
    cases hn : ofNote phrases e block note with
    | error failure =>
      rw [hn] at h
      cases h
    | ok bar? =>
      rw [hn] at h
      exact congrArg _ h
  · intro h
    exact ofNote?_of_ofNote h

theorem shows_of_ofNote? (h : ofNote? phrases e block note = some bar) :
    Shows phrases e block note bar.row := by
  cases ofNote?_eq_some_iff.mp h with
  | @some told interval label series ht hi hl hs =>
    exact {
      interval := ⟨interval, spans_iff.mpr ⟨told, ht, hi⟩, rfl, rfl⟩
      ordered := ⟨interval.start, interval.finish, rfl, rfl, interval.ordered⟩
      notes := rfl
      properties := rfl
      due := ht.due
      label := hl
      series := hs
      height := rfl }

/-- A readable note has a bar exactly if its dates make an interval. -/
theorem exists_ofNote?_iff (h : Readable phrases e block note) :
    (∃ bar, ofNote? phrases e block note = some bar) ↔
      ∃ interval, Spans phrases e block note interval := by
  simp only [ofNote?_eq_some_iff]
  constructor
  · rintro ⟨bar, hbar⟩
    cases hbar with
    | some ht hi hl hs => exact ⟨_, spans_iff.mpr ⟨_, ht, hi⟩⟩
  · rintro ⟨interval, hspans⟩
    obtain ⟨label, hl⟩ := h.label interval hspans
    obtain ⟨series, hs⟩ := h.series interval hspans
    obtain ⟨told, ht, hi⟩ := spans_iff.mp hspans
    exact ⟨_, .some ht hi hl hs⟩

theorem ofNotes_eq_ok_iff : ofNotes phrases e block notes = .ok bars ↔
    (∀ note ∈ notes, ∃ bar?, ofNote phrases e block note = .ok bar?) ∧
      bars = notes.filterMap (ofNote? phrases e block) := by
  induction notes generalizing bars with
  | nil => simp [ofNotes, eq_comm]
  | cons note rest ih =>
    constructor
    · intro h
      obtain ⟨bar?, hbar, h⟩ := bind_eq_ok.mp h
      obtain ⟨later, hlater, h⟩ := bind_eq_ok.mp h
      obtain ⟨hrest, rfl⟩ := ih.mp hlater
      cases h
      refine ⟨List.forall_mem_cons.mpr ⟨⟨bar?, hbar⟩, hrest⟩, ?_⟩
      cases bar? <;> simp [ofNote?_of_ofNote hbar]
    · rintro ⟨h, rfl⟩
      obtain ⟨⟨bar?, hbar⟩, hrest⟩ := List.forall_mem_cons.mp h
      rw [ofNotes, hbar, ok_bind, ih.mpr ⟨hrest, rfl⟩, ok_bind]
      cases bar? <;> simp [ofNote?_of_ofNote hbar]

end Bar

namespace Encoding

theorem bars_eq_ok_iff : e.bars phrases block notes = .ok bars ↔
    (∀ note ∈ notes, ∃ bar?, Bar.ofNote phrases e block note = .ok bar?) ∧
      bars = (notes.filterMap (Bar.ofNote? phrases e block)).mergeSort
        fun a b => a.interval.start ≤ b.interval.start := by
  unfold Encoding.bars
  simp only [bind_eq_ok, Bar.ofNotes_eq_ok_iff]
  constructor
  · rintro ⟨made, ⟨hnotes, rfl⟩, h⟩
    cases h
    exact ⟨hnotes, rfl⟩
  · rintro ⟨hnotes, rfl⟩
    exact ⟨_, ⟨hnotes, rfl⟩, rfl⟩

theorem stablySorted_starts (made : List Bar) :
    StablySorted (fun a b => a.interval.start ≤ b.interval.start) made
      (made.mergeSort fun a b => a.interval.start ≤ b.interval.start) := by
  apply stablySorted_mergeSort
  · intro a b c hab hbc
    simp only [decide_eq_true_eq] at hab hbc ⊢
    exact le_trans hab hbc
  · intro a b
    simp only [Bool.or_eq_true, decide_eq_true_eq]
    exact le_total a.interval.start b.interval.start

/-- There is a timeline of notes exactly if nothing that is read of them fails. It is the stable
sort by start of the bars of the notes: those whose dates make an interval have one each, the others
have none, and the row of a bar shows the note that it comes from. -/
theorem bars_inOrder (hb : Interval.IsFiniteBlock block) (phrases : Phrases) (e : Encoding)
    (notes : List Note) :
    ((∃ bars, e.bars phrases block notes = .ok bars) ↔
      ∀ note ∈ notes, Bar.Readable phrases e block note) ∧
    ∀ bars, e.bars phrases block notes = .ok bars →
      StablySorted (fun a b => a.interval.start ≤ b.interval.start)
        (notes.filterMap (Bar.ofNote? phrases e block)) bars ∧
      ∀ note ∈ notes,
        ((∃ bar, Bar.ofNote? phrases e block note = some bar) ↔
          ∃ interval, Bar.Spans phrases e block note interval) ∧
        ∀ bar, Bar.ofNote? phrases e block note = some bar →
          Bar.Shows phrases e block note bar.row := by
  simp only [bars_eq_ok_iff]
  constructor
  · constructor
    · rintro ⟨bars, hnotes, -⟩ note hnote
      exact (Bar.exists_ofNote_iff hb).mp (hnotes note hnote)
    · intro h
      exact ⟨_, fun note hnote => (Bar.exists_ofNote_iff hb).mpr (h note hnote), rfl⟩
  · rintro bars ⟨hnotes, rfl⟩
    refine ⟨stablySorted_starts _, fun note hnote => ⟨?_, fun bar hbar => ?_⟩⟩
    · exact Bar.exists_ofNote?_iff ((Bar.exists_ofNote_iff hb).mp (hnotes note hnote))
    · exact Bar.shows_of_ofNote? hbar

/-- Notes are placed by their starts, or else by when they are due. -/
def dated : Encoding where
  start := FieldName.of? "start"
  finish := FieldName.of? "end"
  due := FieldName.of? "due"
  duration := FieldName.of? "minutes"

def lateNote : Note := ⟨"late.md", [("start", .text "2024-01-10")]⟩

def dueNote : Note := ⟨"due.md", [("due", .text "2024-01-09T23:00")]⟩

def undatedNote : Note := ⟨"undated.md", [("due", .text "2024-13-45")]⟩

/-- The note of a bar, and its place in time. -/
def placeOf (bar : Bar) : String × Moment × Moment :=
  (bar.path, bar.interval.start, bar.interval.finish)

/-- A full hour of a day. -/
def fullHour (day : Date) (hour : Fin 24) : Moment :=
  ⟨day, hour.val * 3600000000, by
    have hday : microsPerDay = 24 * 3600000000 := rfl
    have hhour := hour.isLt
    omega⟩

/-- With a block of less than no time, bars end where the dates of their notes are. The note that
comes second has no bar, and the one that comes last has the first. -/
theorem bars_inOrder_backward : Interval.IsFiniteBlock (.scalar (.int (-60))) ∧
    (∀ note ∈ [lateNote, undatedNote, dueNote],
      Bar.Readable (.ofYear 2024) dated (.scalar (.int (-60))) note) ∧
    ∃ due late, dated.bars (.ofYear 2024) (.scalar (.int (-60))) [lateNote, undatedNote, dueNote] =
        .ok [due, late] ∧
      placeOf due = ("due.md", fullHour { year := 2024, month := 1, day := 9 } 22,
        fullHour { year := 2024, month := 1, day := 9 } 23) ∧
      placeOf late = ("late.md", fullHour { year := 2024, month := 1, day := 9 } 23,
        fullHour { year := 2024, month := 1, day := 10 } 0) ∧
      StablySorted (fun a b => a.interval.start ≤ b.interval.start) [late, due] [due, late] := by
  have hread : ∀ note ∈ [lateNote, undatedNote, dueNote],
      Bar.Readable (.ofYear 2024) dated (.scalar (.int (-60))) note := by
    intro note hnote
    simp only [List.mem_cons, List.not_mem_nil, or_false] at hnote
    rcases hnote with rfl | rfl | rfl <;>
      exact ⟨⟨⟨_, _, _, _⟩, rfl, rfl, rfl, rfl⟩, fun _ _ => ⟨_, rfl⟩, fun _ _ => ⟨_, rfl⟩⟩
  have hlate : (Bar.ofNote? (.ofYear 2024) dated (.scalar (.int (-60))) lateNote).map placeOf = some
      ("late.md", fullHour { year := 2024, month := 1, day := 9 } 23,
        fullHour { year := 2024, month := 1, day := 10 } 0) := by decide +kernel
  have hdue : (Bar.ofNote? (.ofYear 2024) dated (.scalar (.int (-60))) dueNote).map placeOf = some
      ("due.md", fullHour { year := 2024, month := 1, day := 9 } 22,
        fullHour { year := 2024, month := 1, day := 9 } 23) := by decide +kernel
  have hundated : Bar.ofNote? (.ofYear 2024) dated (.scalar (.int (-60))) undatedNote = none :=
    Option.isNone_iff_eq_none.mp (by decide +kernel)
  obtain ⟨late, hlate, hlatePlace⟩ := Option.map_eq_some_iff.mp hlate
  obtain ⟨due, hdue, hduePlace⟩ := Option.map_eq_some_iff.mp hdue
  obtain ⟨hexists, hsorted⟩ :=
    bars_inOrder (.int (-60)) (.ofYear 2024) dated [lateNote, undatedNote, dueNote]
  obtain ⟨bars, hbars⟩ := hexists.mpr hread
  have hstable := (hsorted bars hbars).1
  rw [List.filterMap_cons_some hlate, List.filterMap_cons_none hundated,
    List.filterMap_cons_some hdue, List.filterMap_nil] at hstable
  -- of the two orders that the bars could be in, one is not that of their starts
  have hbarsEq : bars = [due, late] := by
    obtain rfl | rfl := List.perm_pair.mp hstable.perm
    · have hle : late.interval.start ≤ due.interval.start := by simpa using hstable.ordered
      have hlt : (placeOf due).2.1 < (placeOf late).2.1 := by
        rw [hduePlace, hlatePlace]
        decide +kernel
      exact (not_le_of_gt hlt hle).elim
    · rfl
  subst hbarsEq
  exact ⟨.int _, hread, due, late, hbars, hduePlace, hlatePlace, hstable⟩

end Encoding
end NotePlot
