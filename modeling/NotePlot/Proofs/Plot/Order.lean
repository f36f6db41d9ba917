import NotePlot.Plot.Points
import Mathlib.Data.String.Basic
/-! Sorted rows: the rows that were given, each once, none after a row that belongs behind it. -/
namespace NotePlot

/-- Whether a text comes before another in a direction. -/
def Direction.Precedes (dir : Direction) (x y : String) : Prop :=
  match dir with
  | .ascending => x < y
  | .descending => y < x

namespace Row.SortKey

variable {dir : Direction} {a b c : SortKey}

/-- Whether a row with one key belongs before a row with another: texts go in the direction, and
under one text the series ascend in either. -/
def Before (dir : Direction) (a b : SortKey) : Prop :=
  dir.Precedes a.x b.x ∨ (a.x = b.x ∧ a.series < b.series)

theorem before_irrefl : ¬ a.Before dir a := by
  cases dir <;> simp [Before, Direction.Precedes]

theorem ne_of_before (h : a.Before dir b) : a ≠ b := by
  rintro rfl
  exact before_irrefl h

theorem before_trans (hab : a.Before dir b) (hbc : b.Before dir c) : a.Before dir c := by
  have ht : ∀ {x y z}, dir.Precedes x y → dir.Precedes y z → dir.Precedes x z := by
    intro x y z hxy hyz
    cases dir with
    | ascending => exact lt_trans hxy hyz
    | descending => exact lt_trans hyz hxy
  obtain hab | ⟨hab, hs⟩ := hab
  · obtain hbc | ⟨hbc, -⟩ := hbc
    · exact Or.inl (ht hab hbc)
    · exact Or.inl (hbc ▸ hab)
  · obtain hbc | ⟨hbc, ht⟩ := hbc
    · exact Or.inl (hab ▸ hbc)
    · exact Or.inr ⟨hab.trans hbc, hs.trans ht⟩

theorem before_trichotomy (dir : Direction) (a b : SortKey) :
    a.Before dir b ∨ a = b ∨ b.Before dir a := by
  obtain hx | hx | hx := lt_trichotomy a.x b.x
  · cases dir with
    | ascending => exact Or.inl (Or.inl hx)
    | descending => exact Or.inr (Or.inr (Or.inl hx))
  · obtain hs | hs | hs := lt_trichotomy a.series b.series
    · exact Or.inl (Or.inr ⟨hx, hs⟩)
    · cases a
      cases b
      exact Or.inr (Or.inl (congrArg₂ SortKey.mk hx hs))
    · exact Or.inr (Or.inr (Or.inr ⟨hx.symm, hs⟩))
  · cases dir with
    | ascending => exact Or.inr (Or.inr (Or.inl hx))
    | descending => exact Or.inl (Or.inl hx)

/-- What sorting asks of two keys is that they do not stand the wrong way round. -/
theorem le_iff : a.le dir b ↔ a.Before dir b ∨ a = b := by
  obtain ⟨ax, as⟩ := a
  obtain ⟨bx, bs⟩ := b
  simp only [le, Before, SortKey.mk.injEq]
  split
  next hc =>
    have hx : ax < bx := compare_lt_iff_lt.mp hc
    cases dir <;> simp [Direction.Precedes, hx, hx.ne, hx.not_gt]
  next hc =>
    have hx : bx < ax := compare_gt_iff_gt.mp hc
    cases dir <;> simp [Direction.Precedes, hx, hx.ne', hx.not_gt]
  next hc =>
    have hx : ax = bx := Std.compare_eq_iff_eq.mp hc
    cases dir <;> simp [Direction.Precedes, hx, le_iff_lt_or_eq]

theorem le_trans (hab : a.le dir b) (hbc : b.le dir c) : a.le dir c := by
  rw [le_iff] at hab hbc ⊢
  obtain hab | rfl := hab
  · obtain hbc | rfl := hbc
    · exact Or.inl (before_trans hab hbc)
    · exact Or.inl hab
  · exact hbc

theorem le_total (dir : Direction) (a b : SortKey) : a.le dir b || b.le dir a := by
  rw [Bool.or_eq_true, le_iff, le_iff]
  obtain h | h | h := before_trichotomy dir a b
  · exact Or.inl (Or.inl h)
  · exact Or.inl (Or.inr h)
  · exact Or.inr (Or.inl h)

end Row.SortKey

namespace Row

variable {α : Type} {dir : Direction} {a b row : Row α} {rows : List (Row α)} {key : SortKey}
  {pairs : List (SortKey × Row α)}

theorem sortKey_eq_ok : row.sortKey = .ok key ↔
    row.x.plain = .ok key.x ∧ row.series.getD "" = key.series := by
  simp only [sortKey, Outcome.bind_eq_ok]
  constructor
  · rintro ⟨x, hx, h⟩
    cases h
    exact ⟨hx, rfl⟩
  · rintro ⟨hx, hs⟩
    exact ⟨key.x, hx, by rw [Observation.seriesName, hs]; rfl⟩

theorem map_snd_of_keyed (h : keyed rows = .ok pairs) : pairs.map Prod.snd = rows := by
  induction rows generalizing pairs with
  | nil => cases h; rfl
  | cons row rest ih =>
    simp only [keyed, Outcome.bind_eq_ok] at h
    obtain ⟨key, -, later, hl, h⟩ := h
    cases h
    simp [ih hl]

theorem sortKey_of_keyed (h : keyed rows = .ok pairs) {p : SortKey × Row α} (hp : p ∈ pairs) :
    p.2.sortKey = .ok p.1 := by
  induction rows generalizing pairs with
  | nil => cases h; cases hp
  | cons row rest ih =>
    simp only [keyed, Outcome.bind_eq_ok] at h
    obtain ⟨key, hk, later, hl, h⟩ := h
    cases h
    obtain rfl | hp := List.mem_cons.mp hp
    · exact hk
    · exact ih hl hp

theorem keyed_of_sortKeys (h : ∀ row ∈ rows, ∃ key, row.sortKey = .ok key) :
    ∃ pairs, keyed rows = .ok pairs := by
  induction rows with
  | nil => exact ⟨[], rfl⟩
  | cons row rest ih =>
    obtain ⟨key, hk⟩ := h row List.mem_cons_self
    obtain ⟨later, hl⟩ := ih fun r hr => h r (List.mem_cons_of_mem _ hr)
    exact ⟨(key, row) :: later, by simp [keyed, hk, hl]⟩

/-- A single row is no exception to the rule once it has a key. -/
theorem sort_of_keyed (dir : Direction) (h : keyed rows = .ok pairs) :
    sort dir rows = .ok ((pairs.mergeSort fun a b => a.1.le dir b.1).map Prod.snd) := by
  match rows with
  | [] => cases h; simp [sort]
  | [row] =>
    have hs := map_snd_of_keyed h
    obtain ⟨p, rfl⟩ := List.length_eq_one_iff.mp (by simpa using congrArg List.length hs)
    simpa [sort] using hs.symm
  | _ :: _ :: _ => simp [sort, h]

/-- Rows with keys can be sorted; what comes out are the same rows, and their keys are in order. -/
theorem sort_of_sortKeys (dir : Direction) (h : ∀ row ∈ rows, ∃ key, row.sortKey = .ok key) :
    ∃ (sorted : List (Row α)) (keys : List SortKey),
      sort dir rows = .ok sorted ∧ sorted.Perm rows ∧ sorted.map sortKey = keys.map .ok ∧
      keys.Pairwise fun a b => a.Before dir b ∨ a = b := by
  obtain ⟨pairs, hp⟩ := keyed_of_sortKeys h
  have hsort := sort_of_keyed dir hp
  have hperm := List.mergeSort_perm pairs fun a b => a.1.le dir b.1
  have hle : (pairs.mergeSort fun a b => a.1.le dir b.1).Pairwise fun a b => a.1.le dir b.1 := by
    apply List.pairwise_mergeSort
    · intro a b c hab hbc
      exact SortKey.le_trans hab hbc
    · intro a b
      exact SortKey.le_total dir a.1 b.1
  generalize (pairs.mergeSort fun a b => a.1.le dir b.1) = ordered at hsort hperm hle
  refine ⟨ordered.map Prod.snd, ordered.map Prod.fst, hsort, ?_, ?_, ?_⟩
  · simpa [map_snd_of_keyed hp] using hperm.map Prod.snd
  · rw [List.map_map, List.map_map]
    exact List.map_congr_left fun p hm => sortKey_of_keyed hp (hperm.mem_iff.mp hm)
  · rw [List.pairwise_map]
    exact hle.imp SortKey.le_iff.mp

/-- A row belongs before another by their keys. -/
def Precedes (dir : Direction) (a b : Row α) : Prop :=
  ∃ k l, a.sortKey = .ok k ∧ b.sortKey = .ok l ∧ k.Before dir l

theorem Precedes.asymm (hab : a.Precedes dir b) : ¬ b.Precedes dir a := by
  rintro ⟨l', k', hl', hk', hlk⟩
  obtain ⟨k, l, hk, hl, hkl⟩ := hab
  rw [hk, Except.ok.injEq] at hk'
  rw [hl, Except.ok.injEq] at hl'
  subst hk' hl'
  exact SortKey.before_irrefl (SortKey.before_trans hkl hlk)

/-- In sorted rows none stands before a row that belongs before it. -/
theorem exists_sort_pairwise (dir : Direction) (h : ∀ row ∈ rows, ∃ key, row.sortKey = .ok key) :
    ∃ sorted : List (Row α), sort dir rows = .ok sorted ∧ sorted.Perm rows ∧
      sorted.Pairwise fun a b => ¬ b.Precedes dir a := by
  obtain ⟨sorted, keys, hsort, hperm, hmap, horder⟩ := sort_of_sortKeys dir h
  have hkeys : (sorted.map sortKey).Pairwise fun p q => ∀ k l, p = .ok k → q = .ok l →
      ¬ l.Before dir k := by
    rw [hmap, List.pairwise_map]
    refine horder.imp fun {k l} hkl k' l' hk hl hlk => ?_
    cases hk
    cases hl
    obtain hkl | rfl := hkl
    · exact SortKey.before_irrefl (SortKey.before_trans hkl hlk)
    · exact SortKey.before_irrefl hlk
  refine ⟨sorted, hsort, hperm, (List.pairwise_map.mp hkeys).imp fun {a b} hab hba => ?_⟩
  obtain ⟨l, k, hl, hk, hlk⟩ := hba
  exact hab k l hk hl hlk

/-- Two rows are brought into the order that they belong in. -/
theorem sort_pair (h : a.Precedes dir b) (hp : rows.Perm [a, b]) : sort dir rows = .ok [a, b] := by
  have hkeys : ∀ row ∈ rows, ∃ key, row.sortKey = .ok key := by
    obtain ⟨k, l, hk, hl, -⟩ := h
    intro row hrow
    obtain rfl | rfl := List.mem_pair.mp (hp.mem_iff.mp hrow)
    · exact ⟨k, hk⟩
    · exact ⟨l, hl⟩
  obtain ⟨sorted, hsort, hperm, horder⟩ := exists_sort_pairwise dir hkeys
  have hpair : [a, b].Pairwise fun a b => ¬ b.Precedes dir a := List.pairwise_pair.mpr h.asymm
  have hsorted := hperm.trans hp
  have hsame : sorted = [a, b] := by
    refine List.Perm.eq_of_pairwise (fun x y hx hy hxy hyx => ?_) horder hpair hsorted
    obtain rfl | rfl := List.mem_pair.mp (hsorted.mem_iff.mp hx) <;>
      obtain rfl | rfl := List.mem_pair.mp hy
    · rfl
    · exact absurd h hyx
    · exact absurd h hxy
    · rfl
  rw [hsort, hsame]

theorem sortKey_of_text {s : String} (h : a.x = .text s) :
    a.sortKey = .ok ⟨s, Observation.seriesName a.series⟩ := by
  rw [sortKey, h]
  rfl

end Row
end NotePlot
