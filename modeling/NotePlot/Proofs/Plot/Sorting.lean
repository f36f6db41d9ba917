import NotePlot.Proofs.Order.Stable
import NotePlot.Proofs.Plot.Order

/-! Sorting is stable: rows of one key keep their order, so that sorting sorted rows changes
nothing, and rows can be selected before or after. -/
namespace NotePlot.Row

variable {α : Type} {dir : Direction} {rows : List (Row α)} {row : Row α} {key : SortKey}

/-- The key of a row, an empty one if it has none. -/
def rank (row : Row α) : SortKey := row.sortKey.toOption.getD ⟨"", ""⟩

/-- Whether a row may stand before another, by their ranks. -/
def mayPrecede (dir : Direction) (a b : Row α) : Bool := a.rank.le dir b.rank

theorem rank_of_sortKey (h : row.sortKey = .ok key) : row.rank = key := by
  rw [rank, h]
  rfl

theorem SortKey.le_refl (dir : Direction) (key : SortKey) : key.le dir key :=
  SortKey.le_iff.mpr (.inr rfl)

/-- A key may stand before another if its text comes first, or if the texts are the same and its
series does not come later. -/
theorem SortKey.le_iff_precedes {a b : SortKey} : a.le dir b ↔
    dir.Precedes a.x b.x ∨ a.x = b.x ∧ a.series ≤ b.series := by
  rw [SortKey.le_iff, SortKey.Before, or_assoc]
  apply or_congr_right
  rw [le_iff_lt_or_eq, and_or_left]
  apply or_congr_right
  constructor
  · rintro rfl
    exact ⟨rfl, rfl⟩
  · rintro ⟨hx, hseries⟩
    cases a
    cases b
    exact congrArg₂ SortKey.mk hx hseries

theorem precedes_named_iff {name s t : String} : (Direction.named name).Precedes s t ↔
    if name = "desc" then t < s else s < t := by
  have hdesc : Choice.name Direction.descending = "desc" := rfl
  unfold Direction.named
  rw [hdesc]
  split <;> rfl

/-- Rows that have keys are sorted by these and stay with them. -/
theorem sort_eq_mergeSort (h : ∀ row ∈ rows, ∃ key, row.sortKey = .ok key) :
    sort dir rows = .ok (rows.mergeSort (mayPrecede dir)) := by
  obtain ⟨pairs, hp⟩ := keyed_of_sortKeys h
  have hle : ∀ p ∈ pairs, ∀ q ∈ pairs, p.1.le dir q.1 = mayPrecede dir p.2 q.2 := by
    intro p hmp q hmq
    rw [mayPrecede, rank_of_sortKey (sortKey_of_keyed hp hmp),
      rank_of_sortKey (sortKey_of_keyed hp hmq)]
  rw [sort_of_keyed dir hp, List.map_mergeSort hle, map_snd_of_keyed hp]

theorem stablySorted_sort (dir : Direction) (rows : List (Row α)) :
    StablySorted (mayPrecede dir) rows (rows.mergeSort (mayPrecede dir)) := by
  apply stablySorted_mergeSort
  · intro a b c hab hbc
    exact SortKey.le_trans hab hbc
  · intro a b
    exact SortKey.le_total dir a.rank b.rank

/-- Sorting commutes with selecting. -/
theorem mergeSort_filter (dir : Direction) (rows : List (Row α)) (p : Row α → Bool) :
    (rows.filter p).mergeSort (mayPrecede dir) = (rows.mergeSort (mayPrecede dir)).filter p := by
  have hrefl : ∀ row : Row α, mayPrecede dir row row := fun row => SortKey.le_refl dir row.rank
  exact (stablySorted_sort dir (rows.filter p)).unique hrefl ((stablySorted_sort dir rows).filter p)

theorem mergeSort_mergeSort (dir : Direction) (rows : List (Row α)) :
    (rows.mergeSort (mayPrecede dir)).mergeSort (mayPrecede dir) =
      rows.mergeSort (mayPrecede dir) :=
  List.mergeSort_of_pairwise (stablySorted_sort dir rows).ordered

/-- Rows of one key stand in the order in which they were given. -/
theorem filter_mergeSort_sortKey (dir : Direction) (rows : List (Row α)) (key : SortKey) :
    (rows.mergeSort (mayPrecede dir)).filter (·.sortKey = .ok key) =
      rows.filter (·.sortKey = .ok key) := by
  rw [← mergeSort_filter]
  apply List.mergeSort_of_pairwise
  apply List.pairwise_of_forall_mem_list
  intro a ha b hb
  simp only [List.mem_filter, decide_eq_true_eq] at ha hb
  rw [mayPrecede, rank_of_sortKey ha.2, rank_of_sortKey hb.2]
  exact SortKey.le_refl dir key

/-- Rows whose positions have a text are sorted by it, upward unless the name is that of the
descending direction, and under one text by series upward in either direction, where the lack of a
series counts as an empty name. Rows of one key keep their order. Sorted rows stay as they are, and
whichever rows are selected, such as those of a series, it does not matter whether that is done
before or after. -/
theorem sort_isStable (name : String) (h : ∀ row ∈ rows, ∃ s, row.x.plain = .ok s) :
    ∃ sorted, sort (.named name) rows = .ok sorted ∧ sorted.Perm rows ∧
      sorted.Pairwise (fun a b => ∃ s t, a.x.plain = .ok s ∧ b.x.plain = .ok t ∧
        ((if name = "desc" then t < s else s < t) ∨
          s = t ∧ a.series.getD "" ≤ b.series.getD "")) ∧
      (∀ s series, sorted.filter (·.sortKey = .ok ⟨s, series⟩) =
        rows.filter (·.sortKey = .ok ⟨s, series⟩)) ∧
      sort (.named name) sorted = .ok sorted ∧
      ∀ p : Row α → Bool, sort (.named name) (rows.filter p) = .ok (sorted.filter p) := by
  have hkeys : ∀ row ∈ rows, ∃ key, row.sortKey = .ok key := by
    intro row hrow
    obtain ⟨s, hs⟩ := h row hrow
    exact ⟨⟨s, row.series.getD ""⟩, sortKey_eq_ok.mpr ⟨hs, rfl⟩⟩
  have hstable := stablySorted_sort (.named name) rows
  have hsorted : ∀ row ∈ rows.mergeSort (mayPrecede (.named name)), ∃ key, row.sortKey = .ok key :=
    fun row hrow => hkeys row (hstable.perm.mem_iff.mp hrow)
  refine ⟨_, sort_eq_mergeSort hkeys, hstable.perm, ?_, ?_, ?_, ?_⟩
  · apply hstable.ordered.imp_of_mem
    intro a b ha hb hab
    obtain ⟨k, hk⟩ := hsorted a ha
    obtain ⟨l, hl⟩ := hsorted b hb
    rw [mayPrecede, rank_of_sortKey hk, rank_of_sortKey hl, SortKey.le_iff_precedes,
      precedes_named_iff] at hab
    obtain ⟨hx, hseries⟩ := sortKey_eq_ok.mp hk
    obtain ⟨hx', hseries'⟩ := sortKey_eq_ok.mp hl
    rw [hseries, hseries']
    exact ⟨k.x, l.x, hx, hx', hab⟩
  · intro s series
    exact filter_mergeSort_sortKey (.named name) rows ⟨s, series⟩
  · rw [sort_eq_mergeSort hsorted, mergeSort_mergeSort]
  · intro p
    rw [sort_eq_mergeSort fun row hrow => hkeys row (List.mem_of_mem_filter hrow), mergeSort_filter]

/-- A row at a text, of a height and a series. -/
def point (x : String) (y : Nat) (series : Option String) : Row Nat :=
  .plain (.text x) y [] series none

/-- Rows of which two have one key, as one has no series and the other one with an empty name. -/
def scatter : List (Row Nat) :=
  [point "a" 1 none, point "b" 2 (some "s"), point "b" 3 (some ""), point "c" 4 none,
    point "b" 5 none]

theorem sort_isStable_scatter : (∀ row ∈ scatter, ∃ s, row.x.plain = .ok s) ∧
    ∃ sorted, sort (.named "desc") scatter = .ok sorted ∧ sorted.Perm scatter ∧
      (sorted.filter (·.sortKey = .ok ⟨"b", ""⟩)).map (·.y) = [3, 5] ∧
      sort (.named "desc") sorted = .ok sorted := by
  have hx : ∀ row ∈ scatter, ∃ s, row.x.plain = .ok s := by
    intro row hrow
    simp only [scatter, List.mem_cons, List.not_mem_nil, or_false] at hrow
    rcases hrow with rfl | rfl | rfl | rfl | rfl <;> exact ⟨_, rfl⟩
  obtain ⟨sorted, hsort, hperm, -, hsame, hagain, -⟩ := sort_isStable "desc" hx
  refine ⟨hx, sorted, hsort, hperm, ?_, hagain⟩
  rw [hsame]
  rfl

end NotePlot.Row
