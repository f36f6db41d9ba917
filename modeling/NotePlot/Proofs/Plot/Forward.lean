import NotePlot.Proofs.Plot.Running

/-! Runs go forward: a row keeps all that it tells but for its height, and the height is made of the
rows of its series up to it. What comes after a row is never looked at. -/
namespace NotePlot.Row

open Column

variable {α : Type} {e : List α → List α} {f : List α → α} {run : List (Row α) → List (Row α)}
  {rows : List (Row α)} {a b row : Row α} {window : Nat}

/-- A way of giving rows their heights that leaves the rest of them as it is, each in its place, and
does not look ahead: the first rows come out the same whatever follows them. -/
structure GoesForward (g : List (Row α) → List (Row α)) : Prop where
  same : ∀ rows, List.Forall₂ SameButHeight (g rows) rows
  causal : ∀ rows n, g (rows.take n) = (g rows).take n

theorem goesForward_id : GoesForward (id : List (Row α) → List (Row α)) where
  same := sameButHeight_refl
  causal _ _ := rfl

theorem RunsOver.goesForward (hR : RunsOver e run) (he : IsScan e) : GoesForward run where
  same := hR.same
  causal := hR.run_take he

/-- None of the rows is of the series that bears the name kept for rows without one. -/
def LacksNamesake (rows : List (Row α)) : Prop := ∀ row ∈ rows, row.series ≠ some noSeries

theorem LacksNamesake.not_collide (h : LacksNamesake rows) : ¬ Collide rows := by
  rintro ⟨-, row, hrow, hname⟩
  exact h row hrow (Option.filter_eq_some_iff.mp hname).1

/-- Where no kept name is in use, the tracks are the series. -/
theorem track_eq_iff (h : ¬ Collide rows) (ha : a ∈ rows) (hb : b ∈ rows) :
    a.track = b.track ↔ a.member? = b.member? := by
  constructor
  · intro ht
    exact (member?_of_apart (fun _ => h) ha hb rfl ht).symm
  · intro hm
    rw [track_eq, track_eq, hm]

theorem onTrack_take_eq (h : ¬ Collide rows) (hrow : row ∈ rows) (n : Nat) :
    onTrack row.track (rows.take n) = (ofSeries row.member? (rows.take n)).map (·.y) := by
  have hfilter : (rows.take n).filter (·.track = row.track) = ofSeries row.member? (rows.take n) := by
    refine List.filter_congr fun other hother => ?_
    rw [decide_eq_decide]
    exact track_eq_iff h (List.mem_of_mem_take hother) hrow
  rw [← hfilter, onTrack, column, Column.onTrack, List.filter_map, List.map_map]
  rfl

/-- Where `f` is evaluated up to each place, the height of a row is what it makes of the rows of its
series up to it. -/
theorem RunsOver.getElem?_run (hR : RunsOver (scan f) run) (h : ¬ Collide rows) {i : Nat}
    (hrow : rows[i]? = some row) : (run rows)[i]? =
      some { row with y := f ((ofSeries row.member? (rows.take (i + 1))).map (·.y)) } := by
  have hcolumn : (column rows)[i]? = some (row.track, row.y) := by
    rw [column, List.getElem?_map, hrow]
    rfl
  have htake : (column rows).take (i + 1) = column (rows.take (i + 1)) := List.map_take.symm
  rw [hR.eq (.of_evaluates (evaluates_run f)), runBy, withHeights, List.getElem?_zipWith, hrow,
    Column.run, getElem?_runAfter, hcolumn, Option.map_some, List.nil_append, htake]
  rw [← onTrack_take_eq h (List.mem_of_getElem? hrow)]
  rfl

/-- A window that running means over these rows can be had for: with no rows, any. -/
def Fits (window : Nat) (rows : List (Row α)) : Prop := window ≤ widestWindow ∨ rows = []

theorem Fits.ne_nil_of_not (h : ¬ Fits window rows) : widestWindow < window ∧ rows ≠ [] := by
  obtain ⟨hw, hne⟩ := not_or.mp h
  exact ⟨Nat.lt_of_not_le hw, hne⟩

/-- Running sums, and running means over any window that can be had, go forward, if the means do so
that are evaluated for them. The sum at a place is that of the rows of its series up to it, added in
their order; no series and one without a name are the same. Means are refused for nothing but a
window that is too wide, and that only if there are rows. -/
theorem runs_goForward [Add α] [Zero α] {sumsOf : Column α → List α}
    {meansOf : Nat → Column α → Outcome (List α)} {means : Nat → List α → List α}
    (hsums : Evaluates (scan total) sumsOf) (hmeans : Averages means meansOf)
    (hscan : ∀ window, IsScan (means window)) :
    GoesForward (runBy sumsOf) ∧
    (∀ rows : List (Row α), LacksNamesake rows → ∀ (i : Nat) (row : Row α), rows[i]? = some row →
      (runBy sumsOf rows)[i]? = some
        { row with y := total ((ofSeries row.member? (rows.take (i + 1))).map (·.y)) }) ∧
    ∀ given window, Window.read given = .ok window → ∃ g : List (Row α) → List (Row α),
      GoesForward g ∧ ∀ rows,
        (Fits window rows →
          (Window.read given >>= fun window => averagedBy meansOf window rows) = .ok (g rows)) ∧
        (¬ Fits window rows →
          (Window.read given >>= fun window => averagedBy meansOf window rows) =
            .error .overflow) := by
  have hR : RunsOver (scan total) (runBy sumsOf) := .of_evaluates hsums
  refine ⟨hR.goesForward (isScan_scan _), fun rows h i row => hR.getElem?_run h.not_collide, ?_⟩
  intro given window hread
  rw [hread]
  have hwindow {rows : List (Row α)} (hle : window ≤ widestWindow) (h : ¬ Fits window rows) : False :=
    Nat.not_lt.mpr hle (Fits.ne_nil_of_not h).1
  rcases averagedBy_cases hmeans window with
    ⟨hone, hok⟩ | ⟨-, hle, run, hrun, hok⟩ | ⟨hwide, hnil, herror⟩
  · have hle : window ≤ widestWindow := Nat.le_trans hone (by decide)
    exact ⟨id, goesForward_id, fun rows => ⟨fun _ => hok rows, fun h => (hwindow hle h).elim⟩⟩
  · exact ⟨run, hrun.goesForward (hscan window), fun rows =>
      ⟨fun _ => hok rows, fun h => (hwindow hle h).elim⟩⟩
  · refine ⟨id, goesForward_id, fun rows =>
      ⟨fun h => ?_, fun h => herror rows (Fits.ne_nil_of_not h).2⟩⟩
    obtain rfl := h.resolve_left (Nat.not_le.mpr hwide)
    exact hnil

theorem lacksNamesake_mixed : LacksNamesake mixed := by
  have hall : ∀ row ∈ mixed, row.series ≠ some noSeries := by decide
  exact hall

theorem runs_goForward_mixed : LacksNamesake mixed ∧ mixed[2]? = some (bare 2.0 (some "")) ∧
    (cumulative mixed)[2]? = some (bare (total [1.0, 2.0]) (some "")) ∧
    Window.read (.text "2d") = .ok 2 ∧ Fits 2 mixed ∧
    ∃ g, GoesForward g ∧
      (Window.read (.text "2d") >>= fun window => averaged window mixed) = .ok (g mixed) := by
  have hread : Window.read (.text "2d") = .ok 2 := rfl
  have hfits : Fits 2 mixed := .inl (by decide)
  obtain ⟨-, sums, means⟩ := runs_goForward (evaluates_run (total : List Float → Float))
    averages_means fun _ => isScan_scan _
  obtain ⟨g, hg, hmeans⟩ := means (.text "2d") 2 hread
  exact ⟨lacksNamesake_mixed, rfl, sums mixed lacksNamesake_mixed 2 (bare 2.0 (some "")) rfl, hread,
    hfits, g, hg, (hmeans mixed).1 hfits⟩

/-- A window that is read, but is too wide for the mean of a single row. -/
theorem averaged_tooWide :
    Window.read (.scalar (.int 18446744073709551616)) = .ok 18446744073709551616 ∧
    ∀ rows', (Window.read (.scalar (.int 18446744073709551616)) >>= fun window =>
      averaged window [bare 1.0 none]) ≠ .ok rows' := by
  refine ⟨rfl, fun rows' h => ?_⟩
  cases h

end NotePlot.Row
