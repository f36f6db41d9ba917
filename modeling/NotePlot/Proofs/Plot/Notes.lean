import NotePlot.Proofs.Plot.Points
/-! The notes behind the points of a chart: those that were plotted, as often as they were seen. -/
namespace NotePlot

variable {c : Chart} {style : PlotStyle} {note : Note} {notes : List Note}
  {rows : List (Row Float)} {os : List Observation} {sightings : List Sighting}

open Observation

namespace Sighting

/-- The paths under which notes are seen. -/
def paths (sightings : List Sighting) : List String := sightings.map (·.note.path)

theorem paths_of_givesRise (h : List.Forall₂ (GivesRise c) sightings os) :
    os.map (·.path) = paths sightings := by
  induction h with
  | nil => rfl
  | cons ho _ ih => rw [List.map_cons, ho.path, ih]; rfl

/-- Only notes that are plotted are seen. -/
theorem note_of_mem {s : Sighting} (h : s ∈ ofNotes c style notes) : s.note ∈ notes := by
  obtain ⟨note, hn, hs⟩ := List.mem_flatMap.mp h
  unfold ofNote at hs
  dsimp only at hs
  split at hs
  next _ =>
    obtain ⟨v, -, rfl⟩ := List.mem_map.mp hs
    exact hn
  next _ => cases hs

/-- A note that is not taken apart is seen once at most. -/
theorem paths_sublist (hs : style.exploded = false) (notes : List Note) :
    (paths (ofNotes c style notes)).Sublist (notes.map (·.path)) := by
  induction notes with
  | nil => exact .slnil
  | cons note rest ih =>
    have here : (paths (ofNote c style note)).Sublist [note.path] := by
      unfold ofNote
      simp only [hs, Bool.false_eq_true, if_false]
      split
      · split
        · exact List.nil_sublist _
        · exact .refl _
      · exact List.nil_sublist _
    have hsplit : paths (ofNotes c style (note :: rest)) =
        paths (ofNote c style note) ++ paths (ofNotes c style rest) := by
      simp [paths, ofNotes]
    rw [hsplit]
    exact here.append ih

/-- A note that is not taken apart is seen at its first value. -/
theorem value_of_mem {s : Sighting} (hs : style.exploded = false) (h : s ∈ ofNotes c style notes) :
    s.value = (channel s.note.properties c.encoding.x).first := by
  obtain ⟨note, -, hs'⟩ := List.mem_flatMap.mp h
  unfold ofNote at hs'
  simp only [hs, Bool.false_eq_true, if_false] at hs'
  split at hs'
  · obtain ⟨v, hv, rfl⟩ := List.mem_map.mp hs'
    split at hv
    · cases hv
    · exact List.mem_singleton.mp hv
  · cases hs'

/-- A note that is taken apart and counted is seen somewhere, if only among the missing ones. -/
theorem mem_paths_of_exploded (hs : style.exploded = true)
    (hc : c.aggregation.reduction = some .count) (h : note ∈ notes) :
    note.path ∈ paths (ofNotes c style notes) := by
  have hne : ofNote c style note ≠ [] := by
    unfold ofNote isUsable Category.explode
    simp only [hs, hc, decide_true, Bool.true_or, if_true]
    split <;> simp_all
  obtain ⟨s, hs⟩ := List.exists_mem_of_ne_nil _ hne
  have hnote : s.note = note := by
    have hall : s ∈ ofNotes c style [note] := by simpa [ofNotes] using hs
    exact List.mem_singleton.mp (note_of_mem hall)
  exact List.mem_map.mpr ⟨s, List.mem_flatMap.mpr ⟨note, h, hs⟩, by rw [hnote]⟩

end Sighting

theorem exists_mem_of_forall₂ {α β : Type} {R : α → β → Prop} {xs : List α} {ys : List β} {x : α}
    (h : List.Forall₂ R xs ys) (hx : x ∈ xs) : ∃ y ∈ ys, R x y := by
  induction h with
  | nil => cases hx
  | cons hxy _ ih =>
    rcases List.mem_cons.mp hx with rfl | hx
    · exact ⟨_, List.mem_cons_self, hxy⟩
    · obtain ⟨y, hy, hR⟩ := ih hx
      exact ⟨y, List.mem_cons_of_mem _ hy, hR⟩

namespace Chart

/-- Points name the note of each sighting once, whether they are run or not. -/
theorem flatMap_notes_perm_paths (h : c.points style notes = .ok rows) :
    (rows.flatMap (·.notes)).Perm (Sighting.paths (Sighting.ofNotes c style notes)) := by
  obtain ⟨os, sorted, hos, hsort, hmap⟩ :=
    points_eq_ok_of_heightless (φ := Row.notes) (fun _ _ => rfl) h
  obtain ⟨sorted', hsort', ha⟩ := sort_unsorted c (sound_ofNotes hos)
  obtain rfl : sorted' = sorted := Except.ok.inj (hsort'.symm.trans hsort)
  have hnotes : rows.flatMap (·.notes) = sorted'.flatMap (·.notes) := by
    rw [List.flatMap_def, List.flatMap_def, hmap]
  rw [hnotes, ← Sighting.paths_of_givesRise (givesRise_ofNotes hos)]
  exact flatMap_notes_perm ha

theorem exists_observation_of_accounts {reduction : Option Reduction} {row : Row Float}
    (h : Accounts reduction os rows) (hrow : row ∈ rows) : ∃ o ∈ os, row.x = o.x := by
  cases reduction with
  | some r =>
    obtain ⟨places, -, -, hd⟩ := h
    obtain ⟨place, -, hdraws⟩ := exists_mem_of_forall₂ hd hrow
    obtain ⟨o, ho, hx⟩ := Option.map_eq_some_iff.mp hdraws.x
    exact ⟨o, List.mem_of_mem_filter (List.mem_of_head? ho), hx.symm⟩
  | none =>
    obtain ⟨os', hp, hd⟩ := h
    obtain ⟨o, ho, hshows⟩ := exists_mem_of_forall₂ hd hrow
    exact ⟨o, hp.mem_iff.mp ho, hshows.x⟩

/-- Each point stands at the position of something that is seen. -/
theorem exists_sighting_of_points {row : Row Float} (h : c.points style notes = .ok rows)
    (hrow : row ∈ rows) : ∃ s ∈ Sighting.ofNotes c style notes, ∃ p : Position,
      Position.ofBucketed c.bucket s.value = .ok p ∧ p.shown = row.x := by
  obtain ⟨os, sorted, hos, hsort, hmap⟩ :=
    points_eq_ok_of_heightless (φ := Row.x) (fun _ _ => rfl) h
  obtain ⟨sorted', hsort', ha⟩ := sort_unsorted c (sound_ofNotes hos)
  obtain rfl : sorted' = sorted := Except.ok.inj (hsort'.symm.trans hsort)
  have hx : row.x ∈ sorted'.map (·.x) := hmap ▸ List.mem_map_of_mem hrow
  obtain ⟨row', hrow', hx⟩ := List.mem_map.mp hx
  obtain ⟨o, ho, hox⟩ := exists_observation_of_accounts ha hrow'
  obtain ⟨s, hs, hrise⟩ := exists_mem_of_forall₂ (givesRise_ofNotes hos).flip ho
  obtain ⟨isDate, hp⟩ := hrise.position
  exact ⟨s, hs, _, hp, hox.symm.trans hx⟩

end Chart
end NotePlot
