import NotePlot.Plot.Points
import Mathlib.Data.List.Forall2
import Mathlib.Data.List.Infix

/-! Running sums and means. Whatever is evaluated over the tracks of rows changes their heights and
nothing else about them, and series run apart under it: only rows without a series meet those of a
series that bears the name kept for them. -/
namespace NotePlot

variable {α β : Type} {e : List α → List α} {f : List α → α} {g : Column α → List α}
  {meansOf : Nat → Column α → Outcome (List α)} {before col : Column α}
  {as bs rows rows' : List (Row α)} {a b row : Row α} {ys : List α} {p : Row α → Bool}
  {track : String} {series : Option String} {window : Nat}

namespace Column

/-- A way of making heights of a column evaluates `e` over its tracks: there is a height for each,
in its place, and those on a track are what `e` makes of the heights on it. -/
structure Evaluates (e : List α → List α) (g : Column α → List α) : Prop where
  length : ∀ col, (g col).length = col.length
  onEach : ∀ col track, onTrack track ((col.map Prod.fst).zip (g col)) = e (onTrack track col)

/-- A way of making running means evaluates `e window` for each window that fits in a word, and
refuses all others. -/
structure Averages (e : Nat → List α → List α) (meansOf : Nat → Column α → Outcome (List α)) :
    Prop where
  fits : ∀ window ≤ widestWindow, ∃ g, Evaluates (e window) g ∧ ∀ col, meansOf window col = .ok (g col)
  wide : ∀ window, widestWindow < window → ∀ col, meansOf window col = .error .overflow

/-- What `f` makes of a list up to each of its elements. -/
def scan (f : List α → α) (ys : List α) : List α := ys.inits.tail.map f

/-- What does not look ahead: the first elements come out the same whatever follows them. -/
def IsScan (e : List α → List α) : Prop := ∀ ys n, e (ys.take n) = (e ys).take n

theorem scan_cons (f : List α → α) (y : α) (ys : List α) :
    scan f (y :: ys) = f [y] :: scan (fun zs => f (y :: zs)) ys := by
  have hinits : ys.inits = [] :: ys.inits.tail := by cases ys <;> rfl
  rw [scan, List.inits_cons, List.tail_cons, hinits, scan]
  simp only [List.map_cons, List.map_map]
  rfl

theorem isScan_scan (f : List α → α) : IsScan (scan f) := by
  intro ys n
  induction ys generalizing f n with
  | nil => rw [List.take_nil, scan, List.inits, List.tail_cons, List.map_nil, List.take_nil]
  | cons y ys ih =>
    cases n with
    | zero => rfl
    | succ n => rw [List.take_succ_cons, scan_cons, scan_cons, List.take_succ_cons, ih]

theorem onTrack_cons (track s : String) (y : α) (col : Column α) :
    onTrack track ((s, y) :: col) = if s = track then y :: onTrack track col else onTrack track col := by
  by_cases hs : s = track <;> simp [onTrack, hs]

theorem onTrack_push (track s : String) (y : α) (col : Column α) : onTrack track (col ++ [(s, y)]) =
    if s = track then onTrack track col ++ [y] else onTrack track col := by
  rw [onTrack, List.filter_append, List.map_append]
  by_cases hs : s = track <;> simp [onTrack, hs]

theorem length_runAfter : (runAfter f before col).length = col.length := by
  induction col generalizing before with
  | nil => rfl
  | cons p rest ih => rw [runAfter, List.length_cons, List.length_cons, ih]

theorem onTrack_runAfter : onTrack track ((col.map Prod.fst).zip (runAfter f before col)) =
    scan (fun ys => f (onTrack track before ++ ys)) (onTrack track col) := by
  induction col generalizing before with
  | nil => rfl
  | cons p rest ih =>
    obtain ⟨s, y⟩ := p
    rw [List.map_cons, runAfter, List.zip_cons_cons, onTrack_cons, onTrack_cons, ih]
    by_cases hs : s = track
    · subst hs
      rw [if_pos rfl, if_pos rfl, scan_cons, onTrack_push, if_pos rfl]
      simp only [List.append_assoc, List.singleton_append]
    · rw [if_neg hs, if_neg hs, onTrack_push, if_neg hs]

theorem evaluates_run (f : List α → α) : Evaluates (scan f) (run f) where
  length _ := length_runAfter
  onEach _ _ := onTrack_runAfter

/-- At each place a run sees the heights up to it. -/
theorem getElem?_runAfter (i : Nat) : (runAfter f before col)[i]? =
    col[i]?.map fun p => f (onTrack p.1 (before ++ col.take (i + 1))) := by
  induction col generalizing before i with
  | nil => rfl
  | cons p rest ih =>
    cases i with
    | zero => rfl
    | succ i => simp [runAfter, ih]

theorem averages_means [Add α] [Zero α] [Div α] [NatCast α] :
    Averages (fun window => scan fun ys => mean (ys.drop (ys.length - window)))
      (means : Nat → Column α → Outcome (List α)) where
  fits _ hw := ⟨_, evaluates_run _, fun _ => if_neg (Nat.not_lt.mpr hw)⟩
  wide _ hw _ := if_pos hw

end Column

namespace Row

open Column

/-- Rows that tell the same but for their heights. -/
def SameButHeight (a b : Row α) : Prop := ∃ y, a = { b with y := y }

theorem SameButHeight.refl (row : Row α) : row.SameButHeight row := ⟨row.y, rfl⟩

theorem sameButHeight_refl (rows : List (Row α)) : List.Forall₂ SameButHeight rows rows :=
  List.forall₂_same.mpr fun row _ => .refl row

theorem SameButHeight.track_eq (h : a.SameButHeight b) : a.track = b.track := by
  obtain ⟨y, rfl⟩ := h
  rfl

/-- Whatever rows tell apart from their heights. -/
theorem map_eq_of_same {φ : Row α → β} (hφ : ∀ row y, φ { row with y := y } = φ row)
    (h : List.Forall₂ SameButHeight as rows) : as.map φ = rows.map φ := by
  induction h with
  | nil => rfl
  | cons hrow _ ih =>
    obtain ⟨y, rfl⟩ := hrow
    rw [List.map_cons, List.map_cons, hφ, ih]

/-- The heights of the rows on one track. -/
def onTrack (track : String) (rows : List (Row α)) : List α := (column rows).onTrack track

theorem onTrack_cons (track : String) (row : Row α) (rows : List (Row α)) :
    onTrack track (row :: rows) =
      if row.track = track then row.y :: onTrack track rows else onTrack track rows :=
  Column.onTrack_cons ..

theorem length_onTrack (h : List.Forall₂ SameButHeight as rows) (track : String) :
    (onTrack track as).length = (onTrack track rows).length := by
  induction h with
  | nil => rfl
  | cons hrow _ ih =>
    rw [onTrack_cons, onTrack_cons, hrow.track_eq]
    split
    · rw [List.length_cons, List.length_cons, ih]
    · exact ih

/-- Rows are known by their heights on each track and by all else that they tell. -/
theorem eq_of_onTrack (ha : List.Forall₂ SameButHeight as rows)
    (hb : List.Forall₂ SameButHeight bs rows)
    (h : ∀ track, onTrack track as = onTrack track bs) : as = bs := by
  induction ha generalizing bs with
  | nil => rw [List.forall₂_nil_right_iff.mp hb]
  | @cons a row as rows ha _ ih =>
    cases hb with
    | @cons b _ bs _ hb hrest =>
      have htrack : a.track = row.track ∧ b.track = row.track := ⟨ha.track_eq, hb.track_eq⟩
      have hy : a.y = b.y := by
        have hhead := h row.track
        rw [onTrack_cons, onTrack_cons, if_pos htrack.1, if_pos htrack.2] at hhead
        exact (List.cons.inj hhead).1
      have hrows : as = bs := by
        refine ih hrest fun track => ?_
        have hcons := h track
        rw [onTrack_cons, onTrack_cons, htrack.1, htrack.2] at hcons
        split at hcons
        · exact (List.cons.inj hcons).2
        · exact hcons
      obtain ⟨y, rfl⟩ := ha
      obtain ⟨y', rfl⟩ := hb
      rw [hrows, show y = y' from hy]

theorem onTrack_filter (h : ∀ row ∈ rows, row.track = track → p row) :
    onTrack track (rows.filter p) = onTrack track rows := by
  induction rows with
  | nil => rfl
  | cons row rows ih =>
    obtain ⟨hrow, hrows⟩ := List.forall_mem_cons.mp h
    by_cases hp : p row
    · rw [List.filter_cons_of_pos hp, onTrack_cons, onTrack_cons, ih hrows]
    · rw [List.filter_cons_of_neg hp, onTrack_cons, if_neg (mt hrow hp), ih hrows]

theorem onTrack_eq_nil (h : ∀ row ∈ rows, row.track ≠ track) : onTrack track rows = [] := by
  induction rows with
  | nil => rfl
  | cons row rows ih =>
    obtain ⟨hrow, hrows⟩ := List.forall_mem_cons.mp h
    rw [onTrack_cons, if_neg hrow, ih hrows]

theorem same_filter (hp : ∀ row y, p { row with y := y } = p row)
    (h : List.Forall₂ SameButHeight as rows) :
    List.Forall₂ SameButHeight (as.filter p) (rows.filter p) := by
  induction h with
  | nil => exact .nil
  | @cons a row as rows hrow _ ih =>
    have heq : p a = p row := by
      obtain ⟨y, rfl⟩ := hrow
      exact hp row y
    by_cases hr : p row
    · rw [List.filter_cons_of_pos hr, List.filter_cons_of_pos (heq.trans hr)]
      exact .cons hrow ih
    · rw [List.filter_cons_of_neg hr, List.filter_cons_of_neg (heq ▸ hr)]
      exact ih

theorem forall_mem_of_same {q : Row α → Prop} (hq : ∀ row y, q row → q { row with y := y })
    (h : List.Forall₂ SameButHeight as rows) (hrows : ∀ row ∈ rows, q row) : ∀ a ∈ as, q a := by
  induction h with
  | nil => exact hrows
  | cons hrow _ ih =>
    obtain ⟨hhead, hrest⟩ := List.forall_mem_cons.mp hrows
    obtain ⟨y, rfl⟩ := hrow
    exact List.forall_mem_cons.mpr ⟨hq _ y hhead, ih hrest⟩

theorem onTrack_take (n : Nat) : onTrack track (rows.take n) =
    (onTrack track rows).take (onTrack track (rows.take n)).length := by
  refine List.prefix_iff_eq_take.mp ?_
  unfold onTrack column Column.onTrack
  exact (((List.take_prefix n rows).map _).filter _).map _

/-- A way of giving rows other heights, and nothing else, that evaluates `e` over their tracks. -/
structure RunsOver (e : List α → List α) (run : List (Row α) → List (Row α)) : Prop where
  same : ∀ rows, List.Forall₂ SameButHeight (run rows) rows
  onEach : ∀ rows track, onTrack track (run rows) = e (onTrack track rows)

theorem length_column (rows : List (Row α)) : (column rows).length = rows.length := List.length_map _

theorem column_withHeights (h : ys.length = rows.length) :
    column (withHeights rows ys) = ((column rows).map Prod.fst).zip ys := by
  induction rows generalizing ys with
  | nil => rfl
  | cons row rows ih =>
    cases ys with
    | nil => cases h
    | cons y ys =>
      have hrest := ih (Nat.succ.inj h)
      unfold column withHeights at hrest ⊢
      rw [List.zipWith_cons_cons, List.map_cons, hrest]
      rfl

theorem same_withHeights (h : ys.length = rows.length) :
    List.Forall₂ SameButHeight (withHeights rows ys) rows := by
  induction rows generalizing ys with
  | nil => exact .nil
  | cons row rows ih =>
    cases ys with
    | nil => cases h
    | cons y ys => exact .cons ⟨y, rfl⟩ (ih (Nat.succ.inj h))

/-- What is evaluated over the tracks of columns is so over those of rows. -/
theorem RunsOver.of_evaluates (h : Evaluates e g) : RunsOver e (runBy g) where
  same rows := same_withHeights ((h.length _).trans (length_column rows))
  onEach rows track := by
    have hlength := (h.length (column rows)).trans (length_column rows)
    rw [onTrack, runBy, column_withHeights hlength, h.onEach]
    rfl

namespace RunsOver

variable {run : List (Row α) → List (Row α)}

theorem eq (h : RunsOver e run) {run' : List (Row α) → List (Row α)} (h' : RunsOver e run') :
    run = run' := by
  funext rows
  exact eq_of_onTrack (h.same rows) (h'.same rows) fun track =>
    (h.onEach rows track).trans (h'.onEach rows track).symm

theorem run_nil (h : RunsOver e run) : run [] = [] := List.forall₂_nil_right_iff.mp (h.same [])

/-- The rows of a sort run alone as they do among others, if no other row is on a track of theirs.
-/
theorem filter_run (hR : RunsOver e run) (hp : ∀ row y, p { row with y := y } = p row)
    (h : ∀ a ∈ rows, ∀ b ∈ rows, p a → a.track = b.track → p b) :
    (run rows).filter p = run (rows.filter p) := by
  refine eq_of_onTrack (same_filter hp (hR.same rows)) (hR.same _) fun track => ?_
  by_cases hsome : ∃ a ∈ rows, p a ∧ a.track = track
  · obtain ⟨a, ha, hpa, rfl⟩ := hsome
    have hrows : ∀ b ∈ rows, b.track = a.track → p b := fun b hb ht => h a ha b hb hpa ht.symm
    have hrun : ∀ b ∈ run rows, b.track = a.track → p b :=
      forall_mem_of_same (fun row y hq ht => (hp row y).trans (hq ht)) (hR.same rows) hrows
    rw [onTrack_filter hrun, hR.onEach, hR.onEach, onTrack_filter hrows]
  · -- a track that none of the rows runs on has no heights, whatever is evaluated over it
    have hnone : onTrack track (rows.filter p) = [] := onTrack_eq_nil fun a ha ht =>
      hsome ⟨a, List.mem_of_mem_filter ha, (List.mem_filter.mp ha).2, ht⟩
    have hnil {xs : List (Row α)} (hxs : List.Forall₂ SameButHeight xs (rows.filter p)) :
        onTrack track xs = [] := by
      rw [← List.length_eq_zero_iff, length_onTrack hxs, hnone]
      rfl
    rw [hnil (same_filter hp (hR.same rows)), hnil (hR.same _)]

/-- Where what is evaluated does not look ahead, the run does not. -/
theorem run_take (hR : RunsOver e run) (he : IsScan e) (rows : List (Row α)) (n : Nat) :
    run (rows.take n) = (run rows).take n := by
  have htake : List.Forall₂ SameButHeight ((run rows).take n) (rows.take n) :=
    List.forall₂_take n (hR.same rows)
  refine eq_of_onTrack (hR.same _) htake fun track => ?_
  rw [hR.onEach, onTrack_take n, he, ← hR.onEach, ← length_onTrack htake, ← onTrack_take]

end RunsOver

theorem averagedBy_of_le_one (h : window ≤ 1) (rows : List (Row α)) :
    averagedBy meansOf window rows = .ok rows := by
  simp [averagedBy, h]

/-- What becomes of the wish for running means: nothing over a window of one row or none, a run if
the window fits in a word, and else a failure for any row that there is. -/
theorem averagedBy_cases {e : Nat → List α → List α} (hm : Averages e meansOf) (window : Nat) :
    window ≤ 1 ∧ (∀ rows, averagedBy meansOf window rows = .ok rows) ∨
    1 < window ∧ window ≤ widestWindow ∧ (∃ run, RunsOver (e window) run ∧
      ∀ rows, averagedBy meansOf window rows = .ok (run rows)) ∨
    widestWindow < window ∧ averagedBy meansOf window [] = .ok [] ∧
      ∀ rows ≠ [], averagedBy meansOf window rows = .error .overflow := by
  by_cases hone : window ≤ 1
  · exact .inl ⟨hone, averagedBy_of_le_one hone⟩
  refine .inr ?_
  have hempty (rows : List (Row α)) : (window ≤ 1 || rows.isEmpty) = true ↔ rows = [] := by
    simp [hone]
  by_cases hw : window ≤ widestWindow
  · obtain ⟨g, hg, hok⟩ := hm.fits window hw
    refine .inl ⟨Nat.lt_of_not_le hone, hw, runBy g, .of_evaluates hg, fun rows => ?_⟩
    unfold averagedBy
    by_cases hrows : rows = []
    · rw [if_pos ((hempty rows).mpr hrows), hrows, (RunsOver.of_evaluates hg).run_nil]
    · rw [if_neg (mt (hempty rows).mp hrows), hok]
      rfl
  · have hwide := Nat.lt_of_not_le hw
    refine .inr ⟨hwide, if_pos ((hempty []).mpr rfl), fun rows hrows => ?_⟩
    unfold averagedBy
    rw [if_neg (mt (hempty rows).mp hrows), hm.wide window hwide]
    rfl

theorem averagedBy_same {e : Nat → List α → List α} (hm : Averages e meansOf)
    (h : averagedBy meansOf window rows = .ok rows') : List.Forall₂ SameButHeight rows' rows := by
  rcases averagedBy_cases hm window with ⟨-, hok⟩ | ⟨-, -, run, hrun, hok⟩ | ⟨-, hnil, herror⟩
  · cases (hok rows).symm.trans h
    exact sameButHeight_refl rows
  · cases (hok rows).symm.trans h
    exact hrun.same rows
  · by_cases hrows : rows = []
    · subst hrows
      cases hnil.symm.trans h
      exact .nil
    · cases (herror rows hrows).symm.trans h

end Row

/-- Whatever a row tells apart from its height, it tells after the run too. -/
theorem Chart.map_run {c : Chart} {rows rows' : List (Row Float)} {φ : Row Float → β}
    (hφ : ∀ row y, φ { row with y := y } = φ row) (h : c.run rows = .ok rows') :
    rows'.map φ = rows.map φ := by
  unfold run at h
  split at h
  · obtain ⟨window, -, h⟩ := Outcome.bind_eq_ok.mp h
    exact Row.map_eq_of_same hφ (Row.averagedBy_same Column.averages_means h)
  · cases h
    split
    · exact Row.map_eq_of_same hφ ((Row.RunsOver.of_evaluates (Column.evaluates_run _)).same rows)
    · rfl

namespace Row

open Column

/-- The series of a row, where an empty name is none. -/
def member? (row : Row α) : Option String := row.series.filter (!·.isEmpty)

/-- The rows of a series, or those without one. -/
def ofSeries (series : Option String) (rows : List (Row α)) : List (Row α) :=
  rows.filter (·.member? = series)

/-- Rows without a series stand beside rows of the series that bears the name kept for them. -/
structure Collide (rows : List (Row α)) : Prop where
  nameless : ∃ row ∈ rows, row.member? = none
  namesake : ∃ row ∈ rows, row.member? = some noSeries

theorem track_eq (row : Row α) : row.track = row.member?.getD noSeries := by
  unfold Row.track member?
  cases row.series with
  | none => rfl
  | some s => by_cases hs : s.isEmpty <;> simp [hs, Option.filter]

/-- Rows on one track are of one series, or the one has none and the other has the kept name. -/
theorem member?_of_track_eq (h : a.track = b.track) : a.member? = b.member? ∨
    (a.member? = none ∧ b.member? = some noSeries) ∨
      (a.member? = some noSeries ∧ b.member? = none) := by
  rw [track_eq, track_eq] at h
  cases ha : a.member? with
  | none =>
    cases hb : b.member? with
    | none => exact .inl rfl
    | some s =>
      rw [ha, hb] at h
      exact .inr (.inl ⟨rfl, congrArg some h.symm⟩)
  | some r =>
    cases hb : b.member? with
    | none =>
      rw [ha, hb] at h
      exact .inr (.inr ⟨congrArg some h, rfl⟩)
    | some s =>
      rw [ha, hb] at h
      exact .inl (congrArg some h)

/-- Where no kept name is in use, the rows on the track of a series are all of that series. -/
theorem member?_of_apart (h : series = none ∨ series = some noSeries → ¬ Collide rows)
    (ha : a ∈ rows) (hb : b ∈ rows) (has : a.member? = series) (ht : a.track = b.track) :
    b.member? = series := by
  obtain hab | ⟨hna, hsb⟩ | ⟨hsa, hnb⟩ := member?_of_track_eq ht
  · exact hab.symm.trans has
  · exact (h (.inl (has.symm.trans hna)) ⟨⟨a, ha, hna⟩, b, hb, hsb⟩).elim
  · exact (h (.inr (has.symm.trans hsa)) ⟨⟨b, hb, hnb⟩, a, ha, hsa⟩).elim

theorem RunsOver.ofSeries_run {run : List (Row α) → List (Row α)} (hR : RunsOver e run)
    (h : series = none ∨ series = some noSeries → ¬ Collide rows) :
    ofSeries series (run rows) = run (ofSeries series rows) := by
  refine hR.filter_run (fun _ _ => rfl) fun a ha b hb has ht => ?_
  exact decide_eq_true (member?_of_apart h ha hb (of_decide_eq_true has) ht)

/-- Running means are refused for a window that is too wide, unless there are no rows. -/
theorem map_ofSeries_averagedBy {e : Nat → List α → List α} (hm : Averages e meansOf)
    (h : series = none ∨ series = some noSeries → ¬ Collide rows)
    (hw : window ≤ widestWindow ∨ ofSeries series rows ≠ []) :
    (averagedBy meansOf window rows).map (ofSeries series) =
      averagedBy meansOf window (ofSeries series rows) := by
  rcases averagedBy_cases hm window with ⟨-, hok⟩ | ⟨-, -, run, hrun, hok⟩ | ⟨hwide, -, herror⟩
  · rw [hok, hok]
    rfl
  · rw [hok, hok, ← hrun.ofSeries_run h]
    rfl
  · have hne : ofSeries series rows ≠ [] := hw.resolve_left (Nat.not_le.mpr hwide)
    have hrows : rows ≠ [] := by
      rintro rfl
      exact hne rfl
    rw [herror _ hrows, herror _ hne]
    rfl

/-- Running sums and running means over a window, as given, of one series are the same among the
rows of others as alone, whatever it is that is evaluated over the tracks for them. For the rows
without a series, and those of the series with the name kept for them, this is so where only one of
the two is there. -/
theorem ofSeries_apart {sumsOf : Column α → List α} {meansOf : Nat → Column α → Outcome (List α)}
    {sums : List α → List α} {means : Nat → List α → List α}
    (hsums : Evaluates sums sumsOf) (hmeans : Averages means meansOf)
    (rows : List (Row α)) (series : Option String)
    (h : series = none ∨ series = some noSeries → ¬ Collide rows) :
    ofSeries series (runBy sumsOf rows) = runBy sumsOf (ofSeries series rows) ∧
    ∀ given : Value,
      (∀ window, Window.read given = .ok window →
        window ≤ widestWindow ∨ ofSeries series rows ≠ []) →
      (Window.read given >>= fun window => averagedBy meansOf window rows).map (ofSeries series) =
        Window.read given >>= fun window => averagedBy meansOf window (ofSeries series rows) := by
  refine ⟨(RunsOver.of_evaluates hsums).ofSeries_run h, fun given hw => ?_⟩
  cases hread : Window.read given with
  | error failure => rfl
  | ok window => exact map_ofSeries_averagedBy hmeans h (hw window hread)

/-- A row of a height and a series, with nothing else to it. -/
def bare (y : Float) (series : Option String) : Row Float := .plain .null y [] series none

def mixed : List (Row Float) := [bare 1.0 none, bare 4.0 (some "a"), bare 2.0 (some "")]

theorem not_collide_mixed : ¬ Collide mixed := by
  rintro ⟨-, row, hrow, hname⟩
  have hnone : ∀ row ∈ mixed, row.member? ≠ some noSeries := by decide
  exact hnone row hrow hname

theorem ofSeries_apart_mixed : ¬ Collide mixed ∧ Window.read (.text "2d") = .ok 2 ∧
    ofSeries none mixed = [bare 1.0 none, bare 2.0 (some "")] ∧
    ofSeries none (cumulative mixed) = cumulative (ofSeries none mixed) ∧
    (averaged 2 mixed).map (ofSeries none) = averaged 2 (ofSeries none mixed) := by
  have hread : Window.read (.text "2d") = .ok 2 := rfl
  obtain ⟨hsums, hmeans⟩ := ofSeries_apart (evaluates_run total) averages_means mixed none
    fun _ => not_collide_mixed
  refine ⟨not_collide_mixed, hread, rfl, hsums, ?_⟩
  have h := hmeans (.text "2d") fun window hw => .inl (Except.ok.inj (hread.symm.trans hw) ▸ by decide)
  rwa [hread] at h

/-- A row without a series, and one of the series with the kept name. -/
def colliding : List (Row Float) := [bare 1.0 none, bare 2.0 (some noSeries)]

/-- The second row takes on the sum and the mean of both. A window that is too wide is refused for
the rows of other series too. -/
theorem ofSeries_colliding :
    (ofSeries (some noSeries) (cumulative colliding)).map (·.y) = [3.0] ∧
    (cumulative (ofSeries (some noSeries) colliding)).map (·.y) = [2.0] ∧
    (averaged 2 colliding).map (fun rows => (ofSeries (some noSeries) rows).map (·.y)) = .ok [1.5] ∧
    (averaged 2 (ofSeries (some noSeries) colliding)).map (·.map (·.y)) = .ok [2.0] ∧
    (averaged (widestWindow + 1) colliding).map (ofSeries (some "a")) = .error .overflow ∧
    averaged (widestWindow + 1) (ofSeries (some "a") colliding) = .ok [] := by
  refine ⟨?_, ?_, ?_, ?_, rfl, rfl⟩
  all_goals decide +kernel

end Row
end NotePlot
