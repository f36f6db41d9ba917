import NotePlot.Timeline.Bars
import Mathlib.Data.List.Perm.Subperm
/-! Bars: a note has one at most, and sorting them keeps them all. -/
namespace NotePlot

open Outcome

variable {phrases : Phrases} {e : Encoding} {block : Value} {note : Note} {notes : List Note}
  {bar : Bar} {bars : List Bar}

namespace Bar

/-- The dates and the duration that place a note in time. -/
structure Dates where
  start : Option Moment
  finish : Option Moment
  due : Option Moment
  duration : Option Number

/-- The properties of a note hold these dates and this duration. -/
structure Tells (phrases : Phrases) (e : Encoding) (props : Properties) (told : Dates) : Prop where
  start : startOf phrases e props = .ok told.start
  finish : date phrases props e.finish = .ok told.finish
  due : date phrases props e.due = .ok told.due
  duration : (channel props e.duration).number = .ok told.duration

/-- The interval that is made from what a note tells. -/
def Dates.interval? (told : Dates) (block : Value) : Outcome (Option Interval) :=
  Interval.ofDates told.start told.finish told.due (Number.toValue told.duration) block

/-- All that can come of a note: no bar if there is no interval, or else a bar with a label and
perhaps a series. -/
inductive Makes (phrases : Phrases) (e : Encoding) (block : Value) (note : Note) : Option Bar → Prop
  | none {told : Dates} (ht : Tells phrases e note.properties told)
      (hi : told.interval? block = .ok none) : Makes phrases e block note none
  | some {told : Dates} {interval : Interval} {label : Value} {series : Option String}
      (ht : Tells phrases e note.properties told) (hi : told.interval? block = .ok (some interval))
      (hl : labelOf e note = .ok label) (hs : seriesOf e note.properties = .ok series) :
      Makes phrases e block note
        (some ⟨label, interval, told.due, series, note.path, note.properties⟩)

theorem ofNote_eq_ok_iff {bar? : Option Bar} :
    ofNote phrases e block note = .ok bar? ↔ Makes phrases e block note bar? := by
  constructor
  · intro h
    obtain ⟨start, hstart, h⟩ := bind_eq_ok.mp h
    obtain ⟨finish, hfinish, h⟩ := bind_eq_ok.mp h
    obtain ⟨due, hdue, h⟩ := bind_eq_ok.mp h
    obtain ⟨duration, hduration, h⟩ := bind_eq_ok.mp h
    obtain ⟨interval?, hi, h⟩ := bind_eq_ok.mp h
    have ht : Tells phrases e note.properties ⟨start, finish, due, duration⟩ :=
      ⟨hstart, hfinish, hdue, hduration⟩
    cases interval? with
    | none =>
      cases h
      exact .none ht hi
    | some interval =>
      obtain ⟨label, hl, h⟩ := bind_eq_ok.mp h
      obtain ⟨series, hs, h⟩ := bind_eq_ok.mp h
      cases h
      exact .some ht hi hl hs
  · intro h
    unfold ofNote
    cases h with
    | none ht hi =>
      unfold Dates.interval? at hi
      simp only [ht.start, ht.finish, ht.due, ht.duration, hi, ok_bind]
      rfl
    | some ht hi hl hs =>
      unfold Dates.interval? at hi
      simp only [ht.start, ht.finish, ht.due, ht.duration, hi, hl, hs, ok_bind]
      rfl

/-- A bar is that of its note. -/
theorem path_of_ofNote (h : ofNote phrases e block note = .ok (some bar)) :
    bar.path = note.path := by
  cases ofNote_eq_ok_iff.mp h
  rfl

theorem paths_sublist (h : ofNotes phrases e block notes = .ok bars) :
    (bars.map (·.path)).Sublist (notes.map (·.path)) := by
  induction notes generalizing bars with
  | nil =>
    cases h
    exact .slnil
  | cons note rest ih =>
    obtain ⟨here, hhere, h⟩ := bind_eq_ok.mp h
    obtain ⟨later, hlater, h⟩ := bind_eq_ok.mp h
    cases h
    cases here with
    | none => exact (ih hlater).cons _
    | some bar =>
      have hpath := path_of_ofNote hhere
      simpa [hpath] using ih hlater

end Bar

/-- The bars of a timeline name notes that are on it, each once at most. -/
theorem Encoding.paths_subperm (h : e.bars phrases block notes = .ok bars) :
    (bars.map (·.path)).Subperm (notes.map (·.path)) := by
  obtain ⟨made, hmade, h⟩ := bind_eq_ok.mp h
  cases h
  have hsort := (List.mergeSort_perm made fun a b => a.interval.start ≤ b.interval.start).map
    (·.path)
  exact hsort.subperm.trans (Bar.paths_sublist hmade).subperm

end NotePlot
