import NotePlot.Proofs.Plot.Forward
import Mathlib.Algebra.BigOperators.Group.List.Basic
import Mathlib.Algebra.Order.Field.Rat
import Mathlib.Data.List.DropRight

/-! Running means in exact arithmetic: each is the mean of the last rows of a series, of as many as
the window holds, or of all that there are as long as they do not fill it. -/
namespace NotePlot

theorem Column.total_eq (ys : List ℚ) : Column.total ys = ys.sum := by
  rw [List.sum_eq_foldl]
  rfl

namespace Row

open Column

variable {rows : List (Row ℚ)} {row : Row ℚ} {series : Option String} {given : Value}
  {window k : Nat}

/-- The last rows among the first `k`: as many as a window holds, or all of them. -/
def trailing (window k : Nat) (rows : List (Row ℚ)) : List (Row ℚ) :=
  (rows.take k).drop (k - min window k)

/-- The mean of the heights of rows. -/
def meanHeight (rows : List (Row ℚ)) : ℚ := (rows.map (·.y)).sum / rows.length

theorem length_trailing (hk : k ≤ rows.length) : (trailing window k rows).length = min window k := by
  rw [trailing, List.length_drop, List.length_take]
  omega

theorem mean_rtake (hk : k ≤ rows.length) :
    mean (((rows.take k).map (·.y)).rtake window) = meanHeight (trailing window k rows) := by
  have hlast : ((rows.take k).map (·.y)).rtake window = (trailing window k rows).map (·.y) := by
    rw [List.rtake, trailing, List.length_map, List.length_take, List.map_drop]
    congr 1
    omega
  rw [hlast, mean, total_eq, List.length_map]
  rfl

theorem ofSeries_take (h : (ofSeries series rows)[k]? = some row) (n : Nat) :
    ofSeries row.member? ((ofSeries series rows).take n) = (ofSeries series rows).take n := by
  have hseries : ∀ other ∈ ofSeries series rows, other.member? = series := fun other hother =>
    of_decide_eq_true (List.mem_filter.mp hother).2
  refine List.filter_eq_self.mpr fun other hother => decide_eq_true ?_
  rw [hseries other (List.mem_of_mem_take hother), hseries row (List.mem_of_getElem? h)]

/-- The last heights of each track, as many as a window holds, are those of the last rows of a
series. -/
theorem RunsOver.getElem?_ofSeries {run : List (Row ℚ) → List (Row ℚ)}
    (hR : RunsOver (scan fun ys => mean (ys.rtake window)) run) (hn : LacksNamesake rows)
    (hrow : (ofSeries series rows)[k]? = some row) :
    (ofSeries series (run rows))[k]? =
      some { row with y := meanHeight (trailing window (k + 1) (ofSeries series rows)) } := by
  have hnone : ¬ Collide (ofSeries series rows) :=
    LacksNamesake.not_collide fun other hother => hn other (List.mem_of_mem_filter hother)
  have hk : k + 1 ≤ (ofSeries series rows).length := (List.getElem?_eq_some_iff.mp hrow).1
  rw [hR.ofSeries_run fun _ => hn.not_collide, hR.getElem?_run hnone hrow, ofSeries_take hrow,
    mean_rtake hk]

/-- Over a window that is read and can be had, running means change nothing but heights, and over a
window of one row or none not even these. Over any other window the row after the first `k` of its
series takes on the mean of the last rows of the series up to and with it, of as many as the window
holds, or of all `k + 1` of them. -/
theorem averaged_trailing {meansOf : Nat → Column ℚ → Outcome (List ℚ)}
    (hmeans : Averages (fun window => scan fun ys => mean (ys.rtake window)) meansOf)
    (hn : LacksNamesake rows) (hread : Window.read given = .ok window) (hfits : Fits window rows) :
    ∃ rows', (Window.read given >>= fun window => averagedBy meansOf window rows) = .ok rows' ∧
      List.Forall₂ SameButHeight rows' rows ∧ (window ≤ 1 → rows' = rows) ∧
      (1 < window → ∀ (series : Option String) (k : Nat) (row : Row ℚ),
        (ofSeries series rows)[k]? = some row →
          (ofSeries series rows')[k]? =
            some { row with y := meanHeight (trailing window (k + 1) (ofSeries series rows)) } ∧
          (trailing window (k + 1) (ofSeries series rows)).length = min window (k + 1)) := by
  rw [hread]
  rcases averagedBy_cases hmeans window with
    ⟨hone, hok⟩ | ⟨hmany, -, run, hrun, hok⟩ | ⟨hwide, hnil, -⟩
  · exact ⟨rows, hok rows, sameButHeight_refl rows, fun _ => rfl, fun hw => by omega⟩
  · refine ⟨run rows, hok rows, hrun.same rows, fun hw => by omega, fun _ series k row hrow => ?_⟩
    exact ⟨hrun.getElem?_ofSeries hn hrow, length_trailing (List.getElem?_eq_some_iff.mp hrow).1⟩
  · obtain rfl := hfits.resolve_left (Nat.not_le.mpr hwide)
    refine ⟨[], hnil, .nil, fun _ => rfl, fun _ series k row hrow => ?_⟩
    cases hrow

/-- A row of a height and a series, with nothing else to it, in exact numbers. -/
def mark (y : ℚ) (series : Option String) : Row ℚ := .plain .null y [] series none

/-- Three rows without a series, and one of a series among them. -/
def ramp : List (Row ℚ) := [mark 1 none, mark 5 (some "a"), mark 2 (some ""), mark 6 none]

theorem lacksNamesake_ramp : LacksNamesake ramp := by
  have hall : ∀ row ∈ ramp, row.series ≠ some noSeries := by decide
  exact hall

theorem averaged_trailing_ramp : LacksNamesake ramp ∧ Window.read (.text "2d") = .ok 2 ∧
    Fits 2 ramp ∧
    ∃ rows', (Window.read (.text "2d") >>= fun window => averaged window ramp) = .ok rows' ∧
      (ofSeries none rows')[0]? = some (mark 1 none) ∧
      (ofSeries none rows')[1]? = some (mark (3 / 2) (some "")) ∧
      (ofSeries none rows')[2]? = some (mark 4 none) := by
  have hread : Window.read (.text "2d") = .ok 2 := rfl
  have hfits : Fits 2 ramp := .inl (by decide)
  have hmeans : meanHeight (trailing 2 1 (ofSeries none ramp)) = 1 ∧
      meanHeight (trailing 2 2 (ofSeries none ramp)) = 3 / 2 ∧
      meanHeight (trailing 2 3 (ofSeries none ramp)) = 4 := by decide +kernel
  obtain ⟨rows', hrun, -, -, hmean⟩ := averaged_trailing averages_means lacksNamesake_ramp hread hfits
  have hplace := hmean (by decide) none
  refine ⟨lacksNamesake_ramp, hread, hfits, rows', hrun, ?_, ?_, ?_⟩
  · rw [(hplace 0 (mark 1 none) rfl).1, hmeans.1]
    rfl
  · rw [(hplace 1 (mark 2 (some "")) rfl).1, hmeans.2.1]
    rfl
  · rw [(hplace 2 (mark 6 none) rfl).1, hmeans.2.2]
    rfl

/-- A text that begins with a number too great for a window of running means. -/
theorem averaged_wideText :
    Window.read (.text "18446744073709551616d") = .ok 18446744073709551616 ∧
    LacksNamesake [mark 1 none] ∧
    ∀ rows', (Window.read (.text "18446744073709551616d") >>= fun window =>
      averaged window [mark 1 none]) ≠ .ok rows' := by
  have hread : Window.read (.text "18446744073709551616d") = .ok 18446744073709551616 := rfl
  refine ⟨hread, List.forall_mem_singleton.mpr (by decide), fun rows' h => ?_⟩
  rw [hread] at h
  cases h

end Row
end NotePlot
