import NotePlot.Proofs.Plot.Group
import NotePlot.Proofs.Plot.Running
import Mathlib.Data.List.Perm.Basic
/-! Points: the rows of a plotted chart account for all observations, stand in one order only, and
do not depend on the order of the notes. -/
namespace NotePlot

variable {c : Chart} {style : PlotStyle} {r : Reduction} {dir : Direction} {notes : List Note}
  {os os' : List Observation} {rows sorted : List (Row Float)} {row : Row Float}
  {place : Option String × String}

open Observation Row

/-- The row of the observations at a place. -/
structure Row.Draws (r : Reduction) (os : List Observation) (row : Row Float)
    (place : Option String × String) : Prop where
  series : row.series = place.1
  text : row.x.plain = .ok place.2
  notes : row.notes = (gathered os place).map (·.path)
  x : (gathered os place).head?.map (·.x) = some row.x
  properties : row.properties = (gathered os place).getLast?.map (·.properties)
  count : r = .count → row.y = Float.ofNat (gathered os place).length

/-- The row of a single observation. -/
structure Row.Shows (row : Row Float) (o : Observation) : Prop where
  series : row.series = o.series
  x : row.x = o.x
  y : row.y = o.y.val
  notes : row.notes = [o.path]
  properties : row.properties = some o.properties

namespace Group

/-- The row of a group is the row of its place. -/
theorem draws_row {g : Group} (r : Reduction) (hs : ∀ o ∈ os, o.Sound)
    (hg : g ∈ ofObservations os) : (g.row r).Draws r os g.head.place := by
  have hm := members_eq_gathered hs hg
  constructor
  case series => rfl
  case text => exact (hs _ (head_mem hg)).text
  case notes => rw [← hm]; rfl
  case x => rw [← hm]; rfl
  case properties => rw [← hm, members, List.getLast?_cons]; rfl
  case count =>
    rintro rfl
    rw [← hm]
    simp [row, Row.plain, Reduction.apply, members]

end Group

namespace Row

theorem Draws.sortKey (h : row.Draws r os place) : row.sortKey = .ok (sortKeyAt place) :=
  sortKey_eq_ok.mpr ⟨h.text, by rw [h.series]; rfl⟩

/-- Rows that draw one place from the same observations in another order differ in no more than
what the order decides. -/
theorem Draws.agree {row' : Row Float} (hp : os.Perm os') (h : row.Draws r os place)
    (h' : row'.Draws r os' place) : (∃ s, row.x.plain = .ok s ∧ row'.x.plain = .ok s) ∧
      row.series = row'.series ∧ row.notes.Perm row'.notes ∧ (r = .count → row.y = row'.y) := by
  have hgather : (gathered os place).Perm (gathered os' place) := hp.filter _
  refine ⟨⟨place.2, h.text, h'.text⟩, ?_, ?_, ?_⟩
  · rw [h.series, h'.series]
  · rw [h.notes, h'.notes]
    exact hgather.map _
  · intro hcount
    rw [h.count hcount, h'.count hcount, hgather.length_eq]

theorem forall₂_of_draws {rows' : List (Row Float)} {places : List (Option String × String)}
    {R : Row Float → Row Float → Prop} (h : List.Forall₂ (Draws r os) rows places)
    (h' : List.Forall₂ (Draws r os') rows' places)
    (hR : ∀ {row row' place}, row.Draws r os place → row'.Draws r os' place → R row row') :
    List.Forall₂ R rows rows' := by
  induction h generalizing rows' with
  | nil =>
    cases h'
    exact .nil
  | cons hrow _ ih =>
    cases h' with
    | cons hrow' h' => exact .cons (hR hrow hrow') (ih h')

theorem map_sortKey_of_draws {places : List (Option String × String)}
    (h : List.Forall₂ (Draws r os) rows places) :
    rows.map Row.sortKey = (places.map sortKeyAt).map .ok := by
  induction h with
  | nil => rfl
  | cons hd _ ih => simp only [List.map_cons, hd.sortKey, ih]

/-- The rows of groups, sorted: one for each place that occurs, and each place before the next. -/
theorem sort_groups (dir : Direction) (r : Reduction) (hs : ∀ o ∈ os, o.Sound) :
    ∃ (sorted : List (Row Float)) (places : List (Option String × String)),
      sort dir ((Group.ofObservations os).map (·.row r)) = .ok sorted ∧
      List.Forall₂ (Draws r os) sorted places ∧
      (∀ place, place ∈ places ↔ ∃ o ∈ os, o.place = place) ∧
      places.Pairwise fun p q => (sortKeyAt p).Before dir (sortKeyAt q) := by
  have hdraws : List.Forall₂ (Draws r os) ((Group.ofObservations os).map (·.row r))
      ((Group.ofObservations os).map (·.head.place)) := by
    rw [List.forall₂_map_left_iff, List.forall₂_map_right_iff, List.forall₂_same]
    exact fun g hg => Group.draws_row r hs hg
  have hkeys : ∀ row ∈ (Group.ofObservations os).map (·.row r), ∃ key, row.sortKey = .ok key := by
    intro row hrow
    obtain ⟨g, hg, rfl⟩ := List.mem_map.mp hrow
    exact ⟨_, (Group.draws_row r hs hg).sortKey⟩
  obtain ⟨sorted, keys, hsort, hperm, hmap, hle⟩ := sort_of_sortKeys dir hkeys
  obtain ⟨places, hd, hp⟩ := List.perm_comp_forall₂ hperm hdraws
  have hk : keys = places.map sortKeyAt :=
    (List.map_inj_right fun _ _ => Except.ok.inj).mp (hmap.symm.trans (map_sortKey_of_draws hd))
  have hn : (places.map sortKeyAt).Nodup :=
    (hp.map sortKeyAt).nodup_iff.mpr (Group.nodup_sortKeys os)
  refine ⟨sorted, places, hsort, hd, fun place => ?_, ?_⟩
  · rw [hp.mem_iff, Group.mem_places hs]
  · subst hk
    refine (List.pairwise_map.mp (hle.and hn)).imp ?_
    rintro p q ⟨h | h, hne⟩
    · exact h
    · exact (hne h).elim

end Row

namespace Chart

/-- Rows that are not grouped show one observation each. -/
theorem shows_row (o : Observation) : o.row.Shows o := ⟨rfl, rfl, rfl, rfl, rfl⟩

theorem sortKey_unsorted (hs : ∀ o ∈ os, o.Sound) :
    ∀ row ∈ c.unsorted os, ∃ key, row.sortKey = .ok key := by
  intro row hrow
  unfold unsorted at hrow
  split at hrow
  next r _ =>
    obtain ⟨g, hg, rfl⟩ := List.mem_map.mp hrow
    exact ⟨_, (Group.draws_row r hs hg).sortKey⟩
  next _ =>
    obtain ⟨o, ho, rfl⟩ := List.mem_map.mp hrow
    exact ⟨⟨o.key, seriesName o.series⟩, sortKey_eq_ok.mpr ⟨(hs o ho).text, rfl⟩⟩

theorem unsorted_nil (c : Chart) : c.unsorted [] = [] := by
  unfold unsorted
  split <;> rfl

/-- Any points are observations made into rows, sorted, and run. The run leaves everything but the
heights as it is. -/
theorem points_eq_ok_of_heightless {β : Type} {φ : Row Float → β}
    (hφ : ∀ row y, φ { row with y := y } = φ row) (h : c.points style notes = .ok rows) :
    ∃ os sorted, ofNotes c style.exploded style.missing notes = .ok os ∧
      Row.sort c.direction (c.unsorted os) = .ok sorted ∧ rows.map φ = sorted.map φ := by
  simp only [points, Outcome.bind_eq_ok] at h
  obtain ⟨_, -, os, hos, h⟩ := h
  split at h
  next he =>
    cases h
    exact ⟨os, [], hos, by rw [List.isEmpty_iff.mp he, unsorted_nil]; rfl, rfl⟩
  next _ =>
    obtain ⟨sorted, hsort, h⟩ := Outcome.bind_eq_ok.mp h
    exact ⟨os, sorted, hos, hsort, map_run hφ h⟩

theorem points_eq_ok (h : c.points style notes = .ok rows) : ∃ os sorted,
    ofNotes c style.exploded style.missing notes = .ok os ∧
      Row.sort c.direction (c.unsorted os) = .ok sorted ∧
      rows.map Row.sortKey = sorted.map Row.sortKey :=
  points_eq_ok_of_heightless (fun _ _ => rfl) h

/-- Without running sums and means, points are observations made into rows and sorted. -/
theorem points_of_still (hc : c.aggregation.cumulative = false)
    (hr : c.aggregation.rolling.isSet = false) : c.points style notes =
      ofNotes c style.exploded style.missing notes >>=
        fun os => Row.sort c.direction (c.unsorted os) := by
  have hcheck : Window.check c style.runningTypes = .ok () := by simp [Window.check, hc, hr]
  have hrun : ∀ rows, c.run rows = .ok rows := by simp [run, hc, hr]
  simp only [points, hcheck, Outcome.ok_bind]
  congr 1
  funext os
  split
  next he =>
    rw [List.isEmpty_iff.mp he, unsorted_nil]
    rfl
  next _ =>
    simp only [hrun]
    cases Row.sort c.direction (c.unsorted os) <;> rfl

/-- The rows of a plot in terms of the observations: grouped, one row for each place that there is;
not grouped, one for each observation. -/
def Accounts (reduction : Option Reduction) (os : List Observation) (rows : List (Row Float)) :
    Prop :=
  match reduction with
  | some r => ∃ places : List (Option String × String), places.Nodup ∧
      (∀ place, place ∈ places ↔ ∃ o ∈ os, o.place = place) ∧
      List.Forall₂ (Row.Draws r os) rows places
  | none => ∃ os', os'.Perm os ∧ List.Forall₂ Row.Shows rows os'

theorem flatMap_notes_eq {β : Type} {f : β → List String} {xs : List β}
    (h : List.Forall₂ (fun row x => row.notes = f x) rows xs) :
    rows.flatMap (·.notes) = xs.flatMap f := by
  induction h with
  | nil => rfl
  | cons hrow _ ih => rw [List.flatMap_cons, List.flatMap_cons, hrow, ih]

/-- Rows that account for observations name the note of each once. -/
theorem flatMap_notes_perm {reduction : Option Reduction} (h : Accounts reduction os rows) :
    (rows.flatMap (·.notes)).Perm (os.map (·.path)) := by
  cases reduction with
  | some r =>
    obtain ⟨places, hn, hm, hd⟩ := h
    rw [flatMap_notes_eq (hd.imp fun _ _ h => h.notes), ← List.map_flatMap]
    exact (flatMap_gathered_perm hn fun o ho => (hm _).mpr ⟨o, ho, rfl⟩).map _
  | none =>
    obtain ⟨os', hp, hd⟩ := h
    rw [flatMap_notes_eq (hd.imp fun _ _ h => h.notes), ← List.map_eq_flatMap]
    exact hp.map _

/-- Sorting the rows of observations loses none of them and adds none. -/
theorem sort_unsorted (c : Chart) (hs : ∀ o ∈ os, o.Sound) :
    ∃ sorted, Row.sort c.direction (c.unsorted os) = .ok sorted ∧
      Accounts c.aggregation.reduction os sorted := by
  have hkeys := sortKey_unsorted (c := c) hs
  cases hc : c.aggregation.reduction with
  | some r =>
    obtain ⟨sorted, places, hsort, hd, hm, hp⟩ := Row.sort_groups c.direction r hs
    refine ⟨sorted, by simpa only [unsorted, hc] using hsort, places, hp.imp ?_, hm, hd⟩
    intro p q h he
    exact Row.SortKey.ne_of_before h (congrArg sortKeyAt he)
  | none =>
    simp only [unsorted, hc] at hkeys ⊢
    obtain ⟨sorted, keys, hsort, hperm, -⟩ := sort_of_sortKeys c.direction hkeys
    have hshow : List.Forall₂ Row.Shows (os.map (·.row)) os := by
      rw [List.forall₂_map_left_iff, List.forall₂_same]
      exact fun o _ => shows_row o
    obtain ⟨os', hd, hp⟩ := List.perm_comp_forall₂ hperm hshow
    exact ⟨sorted, hsort, os', hp, hd⟩

/-- The keys of sorted rows are in order, and none occurs twice if the rows are groups. -/
theorem inOrder_of_sort (hs : ∀ o ∈ os, o.Sound)
    (h : Row.sort c.direction (c.unsorted os) = .ok sorted) : ∃ keys : List Row.SortKey,
      sorted.map Row.sortKey = keys.map .ok ∧
      keys.Pairwise (fun a b => a.Before c.direction b ∨ a = b) ∧
      (c.aggregation.reduction.isSome → keys.Pairwise (Row.SortKey.Before c.direction)) := by
  cases hc : c.aggregation.reduction with
  | some r =>
    obtain ⟨sorted', places, hsort, hd, -, hp⟩ := Row.sort_groups c.direction r hs
    simp only [unsorted, hc, hsort, Except.ok.injEq] at h
    subst h
    have hb := List.pairwise_map.mpr hp
    exact ⟨places.map sortKeyAt, map_sortKey_of_draws hd, hb.imp Or.inl, fun _ => hb⟩
  | none =>
    obtain ⟨sorted', keys, hsort, -, hmap, hle⟩ :=
      sort_of_sortKeys c.direction (sortKey_unsorted (c := c) hs)
    obtain rfl : sorted' = sorted := Except.ok.inj (hsort.symm.trans h)
    exact ⟨keys, hmap, hle, by simp⟩

/-- Without running sums and means, notes that can be observed have points for what is observed. -/
theorem points_of_ofNotes (hc : c.aggregation.cumulative = false)
    (hr : c.aggregation.rolling.isSet = false)
    (hos : ofNotes c style.exploded style.missing notes = .ok os) :
    ∃ rows, c.points style notes = .ok rows ∧ Accounts c.aggregation.reduction os rows := by
  obtain ⟨rows, hsort, ha⟩ := sort_unsorted c (sound_ofNotes hos)
  exact ⟨rows, by rw [points_of_still hc hr, hos, Outcome.ok_bind, hsort], ha⟩

/-- Every sighting of every note is drawn, and nothing else is: it gives rise to one observation,
and the rows account for these without loss, invention or repetition. -/
theorem points_of_readable (hc : c.aggregation.cumulative = false)
    (hr : c.aggregation.rolling.isSet = false) (hn : ∀ note ∈ notes, note.Readable c style) :
    ∃ os rows, List.Forall₂ (Sighting.GivesRise c) (Sighting.ofNotes c style notes) os ∧
      c.points style notes = .ok rows ∧ Accounts c.aggregation.reduction os rows ∧
      (rows.flatMap (·.notes)).Perm (os.map (·.path)) := by
  obtain ⟨os, hos⟩ := ofNotes_of_readable hn
  obtain ⟨rows, h, ha⟩ := points_of_ofNotes hc hr hos
  exact ⟨os, rows, givesRise_ofNotes hos, h, ha, flatMap_notes_perm ha⟩

/-- A pie of tags, a tag counted as often as a note has it. -/
def tagPie : Chart where
  type := .pie
  feed := ⟨[], [], []⟩
  encoding := { x := FieldName.of? "tags", series := FieldName.of? "status" }
  aggregation := ⟨some .count, false, .null, none⟩
  direction := .descending
  title := ""
  explode := none
  bucket := .day

def inParts : PlotStyle := { exploded := true }

def twiceTagged : Note := ⟨"a.md", [("tags", .text "b a b"), ("status", .text "done")]⟩

def onceTagged : Note := ⟨"b.md", [("tags", .list [.null, .text "a"])]⟩

theorem readable_twiceTagged : twiceTagged.Readable tagPie inParts where
  number := fun h => (h rfl).elim
  series := ⟨"done", rfl⟩
  values := by
    intro v hv
    have hv : v ∈ [Value.text "b", .text "a", .text "b"] := hv
    simp only [List.mem_cons, List.not_mem_nil, or_false] at hv
    rcases hv with rfl | rfl | rfl <;> exact ⟨_, rfl⟩

theorem readable_onceTagged : onceTagged.Readable tagPie inParts where
  number := fun h => (h rfl).elim
  series := ⟨_, rfl⟩
  values := by
    intro v hv
    have hv : v ∈ [Value.text "a"] := hv
    obtain rfl := List.mem_singleton.mp hv
    exact ⟨"a", rfl⟩

theorem readable_tagged : ∀ note ∈ [twiceTagged, onceTagged], note.Readable tagPie inParts := by
  intro note hn
  simp only [List.mem_cons, List.not_mem_nil, or_false] at hn
  rcases hn with rfl | rfl
  · exact readable_twiceTagged
  · exact readable_onceTagged

theorem points_of_tagged : tagPie.aggregation.cumulative = false ∧
    tagPie.aggregation.rolling.isSet = false ∧
    (∀ note ∈ [twiceTagged, onceTagged], note.Readable tagPie inParts) ∧
    ∃ os rows, List.Forall₂ (Sighting.GivesRise tagPie)
        (Sighting.ofNotes tagPie inParts [twiceTagged, onceTagged]) os ∧
      tagPie.points inParts [twiceTagged, onceTagged] = .ok rows ∧
      Accounts (some .count) os rows ∧ (rows.flatMap (·.notes)).Perm (os.map (·.path)) :=
  ⟨rfl, rfl, readable_tagged, points_of_readable rfl rfl readable_tagged⟩

/-- Rows stand in the order of their keys; grouped ones all have different keys. -/
theorem points_inOrder (h : c.points style notes = .ok rows) :
    ∃ keys : List Row.SortKey,
      List.Forall₂ (fun row key => row.x.plain = .ok key.x ∧ row.series.getD "" = key.series)
        rows keys ∧
      keys.Pairwise (fun a b => a.Before c.direction b ∨ a = b) ∧
      (c.aggregation.reduction.isSome →
        keys.Pairwise (Row.SortKey.Before c.direction) ∧ keys.Nodup) := by
  obtain ⟨os, sorted, hos, hsort, hmap⟩ := points_eq_ok h
  obtain ⟨keys, hkeys, hle, hlt⟩ := inOrder_of_sort (sound_ofNotes hos) hsort
  have hf : List.Forall₂ (· = ·) (rows.map Row.sortKey) (keys.map .ok) := by
    rw [List.forall₂_eq_eq_eq]
    exact hmap.trans hkeys
  rw [List.forall₂_map_left_iff, List.forall₂_map_right_iff] at hf
  exact ⟨keys, hf.imp fun _ _ h => sortKey_eq_ok.mp h, hle,
    fun hg => ⟨hlt hg, (hlt hg).imp Row.SortKey.ne_of_before⟩⟩

theorem points_inOrder_tagged : ∃ rows, tagPie.points inParts [twiceTagged, onceTagged] = .ok rows ∧
    ∃ keys : List Row.SortKey,
      List.Forall₂ (fun row key => row.x.plain = .ok key.x ∧ row.series.getD "" = key.series)
        rows keys ∧
      keys.Pairwise (fun a b => a.Before .descending b ∨ a = b) ∧
      (tagPie.aggregation.reduction.isSome →
        keys.Pairwise (Row.SortKey.Before .descending) ∧ keys.Nodup) := by
  obtain ⟨os, hos⟩ := ofNotes_of_readable readable_tagged
  obtain ⟨rows, h, -⟩ := points_of_ofNotes rfl rfl hos
  exact ⟨rows, h, points_inOrder h⟩

/-- The same observations in another order make groups at the same places. -/
theorem places_eq_of_perm {places places' : List (Option String × String)} (hp : os.Perm os')
    (hm : ∀ place, place ∈ places ↔ ∃ o ∈ os, o.place = place)
    (hm' : ∀ place, place ∈ places' ↔ ∃ o ∈ os', o.place = place)
    (hlt : places.Pairwise fun p q => (sortKeyAt p).Before dir (sortKeyAt q))
    (hlt' : places'.Pairwise fun p q => (sortKeyAt p).Before dir (sortKeyAt q)) :
    places = places' := by
  have hne : ∀ {p q}, (sortKeyAt p).Before dir (sortKeyAt q) → p ≠ q :=
    fun h he => Row.SortKey.ne_of_before h (congrArg sortKeyAt he)
  apply List.Perm.eq_of_pairwise ?_ hlt hlt'
  · rw [List.perm_ext_iff_of_nodup (hlt.imp hne) (hlt'.imp hne)]
    intro place
    simp only [hm, hm', hp.mem_iff]
  · intro p q _ _ hpq hqp
    exact (Row.SortKey.before_irrefl (Row.SortKey.before_trans hpq hqp)).elim

/-- Notes in another order give the same points, but for the order of the paths behind each. -/
theorem points_perm {notes' : List Note} (hp : notes.Perm notes')
    (hg : c.aggregation.reduction.isSome) (hc : c.aggregation.cumulative = false)
    (hr : c.aggregation.rolling.isSet = false) (h : c.points style notes = .ok rows) :
    ∃ rows', c.points style notes' = .ok rows' ∧
      List.Forall₂ (fun row row' => (∃ s, row.x.plain = .ok s ∧ row'.x.plain = .ok s) ∧
        row.series = row'.series ∧ row.notes.Perm row'.notes ∧
        (c.aggregation.reduction = some .count → row.y = row'.y)) rows rows' := by
  obtain ⟨r, hred⟩ := Option.isSome_iff_exists.mp hg
  rw [points_of_still hc hr] at h
  obtain ⟨os, hos, hsort⟩ := Outcome.bind_eq_ok.mp h
  obtain ⟨os', hos', hperm⟩ := ofNotes_perm hp hos
  obtain ⟨sorted, places, hs, hd, hm, hlt⟩ :=
    Row.sort_groups c.direction r (sound_ofNotes hos)
  obtain ⟨rows', places', hs', hd', hm', hlt'⟩ :=
    Row.sort_groups c.direction r (sound_ofNotes hos')
  obtain rfl := places_eq_of_perm hperm hm hm' hlt hlt'
  simp only [unsorted, hred, hs, Except.ok.injEq] at hsort
  subst hsort
  refine ⟨rows', by simp [points_of_still hc hr, hos', unsorted, hred, hs'], ?_⟩
  refine forall₂_of_draws hd hd' fun hrow hrow' => ?_
  obtain ⟨hx, hseries, hnotes, hy⟩ := hrow.agree hperm hrow'
  exact ⟨hx, hseries, hnotes, fun hcount => hy (Option.some.inj (hred.symm.trans hcount))⟩

theorem points_perm_tagged : [twiceTagged, onceTagged].Perm [onceTagged, twiceTagged] ∧
    ∃ rows, tagPie.points inParts [twiceTagged, onceTagged] = .ok rows ∧
    ∃ rows', tagPie.points inParts [onceTagged, twiceTagged] = .ok rows' ∧
      List.Forall₂ (fun row row' => (∃ s, row.x.plain = .ok s ∧ row'.x.plain = .ok s) ∧
        row.series = row'.series ∧ row.notes.Perm row'.notes ∧
        (some Reduction.count = some .count → row.y = row'.y)) rows rows' := by
  obtain ⟨os, hos⟩ := ofNotes_of_readable readable_tagged
  obtain ⟨rows, h, -⟩ := points_of_ofNotes rfl rfl hos
  have hp : [twiceTagged, onceTagged].Perm [onceTagged, twiceTagged] := .swap _ _ _
  exact ⟨hp, rows, h, points_perm hp rfl rfl rfl h⟩

end Chart
end NotePlot
