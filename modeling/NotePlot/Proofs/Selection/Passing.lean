import NotePlot.Selection.Basic
import Mathlib.Data.List.Basic
/-! The notes that pass a selection: each is judged by itself, so that notes which do not pass can
be left out beforehand. -/
namespace NotePlot.Selection

open Outcome

variable {sel : Selection} {note : Note} {notes fewer passed : List Note} {props : Properties}
  {conditions : List Condition}

/-- A note in one of the folders, with one of the tags, for which all conditions hold. -/
structure Passes (sel : Selection) (note : Note) : Prop where
  folder : Folder.admitsBy sel.folders note.path = .ok true
  tag : Tag.admits sel.tags note.properties = .ok true
  conditions : ∀ c ∈ sel.conditions, c.holds note.properties = .ok true

theorem allHold_eq_true_iff : allHold props conditions = .ok true ↔
    ∀ c ∈ conditions, c.holds props = .ok true := by
  induction conditions with
  | nil => simp [allHold]
  | cons c rest ih =>
    rw [allHold, bind_eq_ok, List.forall_mem_cons, ← ih]
    constructor
    · rintro ⟨b, hb, h⟩
      cases b with
      | false => cases h
      | true => exact ⟨hb, h⟩
    · rintro ⟨hc, hrest⟩
      exact ⟨true, hc, hrest⟩

theorem admits_eq_true_iff : sel.admits note = .ok true ↔ sel.Passes note := by
  rw [admits, bind_eq_ok]
  constructor
  · rintro ⟨inFolder, hf, h⟩
    cases inFolder with
    | false => cases h
    | true =>
      obtain ⟨hasTag, ht, h⟩ := bind_eq_ok.mp h
      cases hasTag with
      | false => cases h
      | true => exact ⟨hf, ht, allHold_eq_true_iff.mp h⟩
  · rintro ⟨hf, ht, hc⟩
    have hall := allHold_eq_true_iff.mpr hc
    exact ⟨true, hf, by simp [ht, hall]⟩

instance (sel : Selection) (note : Note) : Decidable (sel.Passes note) :=
  decidable_of_iff _ admits_eq_true_iff

/-- The notes that pass, in their order. -/
def passing (sel : Selection) (notes : List Note) : List Note :=
  notes.filter fun note => sel.Passes note

/-- Where every note can be judged, those that pass are selected, and no other is. -/
theorem filter_eq_ok_iff : sel.filter notes = .ok passed ↔
    (∀ note ∈ notes, ∃ b, sel.admits note = .ok b) ∧ passed = sel.passing notes := by
  induction notes generalizing passed with
  | nil => simp [filter, passing, eq_comm]
  | cons note rest ih =>
    rw [filter, bind_eq_ok, List.forall_mem_cons]
    -- how the first note is judged decides about it alone
    have split {b : Bool} (hb : sel.admits note = .ok b) : sel.passing (note :: rest) =
        if b then note :: sel.passing rest else sel.passing rest := by
      have hp : sel.Passes note ↔ b = true := by rw [← admits_eq_true_iff, hb, Except.ok.injEq]
      simp only [passing, List.filter_cons, hp, decide_eq_true_eq]
    constructor
    · rintro ⟨b, hb, h⟩
      obtain ⟨later, hlater, h⟩ := bind_eq_ok.mp h
      obtain ⟨hrest, rfl⟩ := ih.mp hlater
      cases h
      exact ⟨⟨⟨b, hb⟩, hrest⟩, (split hb).symm⟩
    · rintro ⟨⟨⟨b, hb⟩, hrest⟩, rfl⟩
      exact ⟨b, hb, by simp [ih.mpr ⟨hrest, rfl⟩, split hb]⟩

theorem passing_passing (sel : Selection) (notes : List Note) :
    sel.passing (sel.passing notes) = sel.passing notes := by
  simp [passing, List.filter_filter]

/-- Notes that do not pass make no difference. -/
theorem passing_of_sublist (hin : (sel.passing notes).Sublist fewer) (hout : fewer.Sublist notes) :
    sel.passing fewer = sel.passing notes := by
  apply List.Sublist.antisymm
  · exact hout.filter _
  · rw [← passing_passing]
    exact hin.filter _

theorem filter_of_sublist (h : sel.filter notes = .ok passed) (hin : passed.Sublist fewer)
    (hout : fewer.Sublist notes) : sel.filter fewer = .ok passed := by
  obtain ⟨hall, rfl⟩ := filter_eq_ok_iff.mp h
  exact filter_eq_ok_iff.mpr
    ⟨fun note hn => hall note (hout.subset hn), (passing_of_sublist hin hout).symm⟩

end NotePlot.Selection
