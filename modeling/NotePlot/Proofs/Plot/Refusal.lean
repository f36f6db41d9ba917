import NotePlot.Proofs.Plot.Points
import NotePlot.Proofs.Failure.Result
/-! Refused wishes for running sums and means. The type of a chart and a clash of two wishes are
told before any note is looked at; a window of which nothing can be made is not, and shows only
where there is something to plot. -/
namespace NotePlot

open Outcome Observation

variable {c : Chart} {style : PlotStyle} {types v : Value} {notes other : List Note}
  {os : List Observation} {fault : TransformFault} {rows : List (Row Float)}

namespace Window

/-- A window of which no number can be made: neither null nor a number, nor a text that begins with
digits. -/
def IsOdd (v : Value) : Prop :=
  match v with
  | .scalar .null | .scalar (.int _) | .scalar (.float _) => False
  | .scalar (.text s) => leading s.toList = []
  | _ => True

theorem fault_eq_transform_iff :
    Window.fault v = .error (.transform fault) ↔ ∃ s, v.display = .ok s ∧ fault = .window s := by
  unfold Window.fault
  rw [bind_eq_error]
  constructor
  · rintro (h | ⟨s, hs, h⟩)
    · exact absurd h (v.failsIn_display.ne_error (by simp [Failure.area]))
    · cases h
      exact ⟨s, hs, rfl⟩
  · rintro ⟨s, hs, rfl⟩
    exact .inr ⟨s, hs, rfl⟩

theorem isOdd_of_ne (hn : v ≠ .scalar .null) (hi : ∀ n, v ≠ .scalar (.int n))
    (hf : ∀ x, v ≠ .scalar (.float x)) (ht : ∀ s, v ≠ .scalar (.text s)) : IsOdd v := by
  cases v with
  | scalar s =>
    cases s with
    | null => exact (hn rfl).elim
    | int n => exact (hi n rfl).elim
    | float x => exact (hf x rfl).elim
    | text s => exact (ht s rfl).elim
    | _ => trivial
  | _ => trivial

/-- An odd window is refused in its own words. -/
theorem read_eq_transform_iff : read v = .error (.transform fault) ↔
    IsOdd v ∧ ∃ s, v.display = .ok s ∧ fault = .window s := by
  unfold read
  split
  case h_1 => exact iff_of_false nofun fun h => h.1
  case h_2 => exact iff_of_false nofun fun h => h.1
  case h_3 x =>
    refine iff_of_false (fun h => ?_) fun h => h.1
    split at h
    · split at h <;> cases h
    · cases h
  case h_4 s =>
    have hodd : IsOdd (.scalar (.text s)) ↔ leading s.toList = [] := Iff.rfl
    dsimp only
    rw [hodd]
    by_cases hs : leading s.toList = []
    · rw [if_pos (List.isEmpty_iff.mpr hs), fault_eq_transform_iff]
      exact (and_iff_right hs).symm
    · rw [if_neg (mt List.isEmpty_iff.mp hs)]
      refine iff_of_false (fun h => ?_) fun h => hs h.1
      exact absurd h (failsIn_range.ne_error (by simp [Failure.area]))
  case h_5 hn hi hf ht =>
    rw [fault_eq_transform_iff]
    exact (and_iff_right (isOdd_of_ne hn hi hf ht)).symm

end Window

namespace Chart

/-- What is wrong with a wish for running sums or means, as far as it can be told without notes: it
is not for charts of this type, or one is wished for along with the other. -/
inductive RefusesRun (c : Chart) (types : Value) : TransformFault → Prop
  | chartType {allowed : List Value} {names : List String}
      (wished : c.aggregation.cumulative ∨ c.aggregation.rolling.isSet)
      (known : types.members? = some allowed) (apart : c.type.isAmong allowed = false)
      (texts : Window.texts allowed = .ok names) :
      RefusesRun c types (.chartType names (Choice.name c.type))
  | both {allowed : List Value}
      (cumulative : c.aggregation.cumulative) (rolling : c.aggregation.rolling.isSet)
      (known : types.members? = some allowed) (among : c.type.isAmong allowed) :
      RefusesRun c types .both

/-- A wish for running means alone, on a chart that may have them, over an odd window. -/
structure HasOddWindow (c : Chart) (types : Value) (fault : TransformFault) : Prop where
  alone : c.aggregation.cumulative = false
  rolling : c.aggregation.rolling.isSet
  among : ∃ allowed, types.members? = some allowed ∧ c.type.isAmong allowed
  odd : Window.IsOdd c.aggregation.rolling
  shown : ∃ s, c.aggregation.rolling.display = .ok s ∧ fault = .window s

/-- A chart that wishes for running sums or means. -/
def WishesRun (c : Chart) : Prop := c.aggregation.cumulative ∨ c.aggregation.rolling.isSet

theorem WishesRun.guard (h : c.WishesRun) :
    ¬ (!c.aggregation.cumulative && !c.aggregation.rolling.isSet) = true := by
  rcases h with h | h <;> simp [h]

theorem check_of_not_wishesRun (h : ¬ c.WishesRun) : Window.check c types = .ok () := by
  obtain ⟨hc, hr⟩ := not_or.mp h
  simp [Window.check, hc, hr]

theorem check_of_unknown (h : c.WishesRun) (ht : types.members? = none) :
    Window.check c types = .error .wrongKind := by
  unfold Window.check
  rw [if_neg h.guard, ht]
  rfl

theorem check_of_apart {allowed : List Value} (h : c.WishesRun)
    (ht : types.members? = some allowed) (ha : c.type.isAmong allowed = false) :
    Window.check c types = Window.texts allowed >>= fun names =>
      .error (.transform (.chartType names (Choice.name c.type))) := by
  unfold Window.check
  rw [if_neg h.guard, ht]
  simp only [ha]
  cases Window.texts allowed <;> rfl

theorem check_of_among {allowed : List Value} (h : c.WishesRun)
    (ht : types.members? = some allowed) (ha : c.type.isAmong allowed) :
    Window.check c types =
      if (c.aggregation.cumulative && c.aggregation.rolling.isSet) = true then
        .error (.transform .both) else .ok () := by
  unfold Window.check
  rw [if_neg h.guard, ht]
  simp only [ha]
  rfl

/-- What the check refuses is what is wrong with the wish. -/
theorem check_eq_transform_iff :
    Window.check c types = .error (.transform fault) ↔ c.RefusesRun types fault := by
  by_cases hw : c.WishesRun
  · cases ht : types.members? with
    | none =>
      rw [check_of_unknown hw ht]
      refine iff_of_false (fun h => by cases h) ?_
      rintro (⟨-, h, -⟩ | ⟨-, -, h, -⟩) <;> cases ht.symm.trans h
    | some allowed =>
      cases ha : c.type.isAmong allowed with
      | false =>
        rw [check_of_apart hw ht ha, bind_eq_error]
        constructor
        · rintro (h | ⟨names, hnames, h⟩)
          · exact absurd h ((Window.failsIn_texts allowed).ne_error (by simp [Failure.area]))
          · cases h
            exact .chartType hw ht ha hnames
        · rintro (⟨-, h, -, hnames⟩ | ⟨-, -, h, hamong⟩)
          · cases ht.symm.trans h
            exact .inr ⟨_, hnames, rfl⟩
          · cases ht.symm.trans h
            cases ha.symm.trans hamong
      | true =>
        rw [check_of_among hw ht ha]
        constructor
        · intro h
          split at h <;> cases h
          next hboth =>
            obtain ⟨hc, hr⟩ := (Bool.and_eq_true _ _).mp hboth
            exact .both hc hr ht ha
        · rintro (⟨-, h, hapart, -⟩ | ⟨hc, hr, -, -⟩)
          · cases ht.symm.trans h
            cases ha.symm.trans hapart
          · simp [hc, hr]
  · rw [check_of_not_wishesRun hw]
    refine iff_of_false (fun h => by cases h) ?_
    rintro (⟨h, -⟩ | ⟨h, -⟩)
    · exact hw h
    · exact hw (.inl h)

/-- A wish for running means is granted on charts of the right type that do not wish for running
sums as well. -/
theorem check_eq_ok_iff (hr : c.aggregation.rolling.isSet) : Window.check c types = .ok () ↔
    c.aggregation.cumulative = false ∧
      ∃ allowed, types.members? = some allowed ∧ c.type.isAmong allowed := by
  have hw : c.WishesRun := .inr hr
  cases ht : types.members? with
  | none => simp [check_of_unknown hw ht]
  | some allowed =>
    cases ha : c.type.isAmong allowed with
    | false =>
      rw [check_of_apart hw ht ha, bind_eq_ok]
      simp [ha]
    | true =>
      rw [check_of_among hw ht ha]
      simp [hr, ha]

/-- Once there are rows, a run is refused only for its window. -/
theorem run_eq_transform_iff : c.run rows = .error (.transform fault) ↔
    c.aggregation.rolling.isSet ∧ Window.read c.aggregation.rolling = .error (.transform fault) := by
  unfold run
  split
  next hr =>
    rw [bind_eq_error]
    refine ⟨fun h => ⟨hr, h.elim id ?_⟩, fun h => .inl h.2⟩
    rintro ⟨window, -, h⟩
    exact absurd h ((Row.failsIn_averaged window rows).ne_error (by simp [Failure.area]))
  next hr => simp [hr]

/-- An odd window is one that passes the check, and is refused once it is read. -/
theorem hasOddWindow_iff : c.HasOddWindow types fault ↔ Window.check c types = .ok () ∧
    c.aggregation.rolling.isSet ∧ Window.read c.aggregation.rolling = .error (.transform fault) := by
  rw [Window.read_eq_transform_iff]
  constructor
  · rintro ⟨halone, hr, hamong, hodd, hshown⟩
    exact ⟨(check_eq_ok_iff hr).mpr ⟨halone, hamong⟩, hr, hodd, hshown⟩
  · rintro ⟨hcheck, hr, hodd, hshown⟩
    obtain ⟨halone, hamong⟩ := (check_eq_ok_iff hr).mp hcheck
    exact ⟨halone, hr, hamong, hodd, hshown⟩

/-- Notes that can be observed are refused a run for what is wrong with the wish, or for an odd
window if something is plotted of them. -/
theorem points_eq_transform_iff (hn : ∀ note ∈ notes, note.Readable c style) :
    c.points style notes = .error (.transform fault) ↔ c.RefusesRun style.runningTypes fault ∨
      c.HasOddWindow style.runningTypes fault ∧ Sighting.ofNotes c style notes ≠ [] := by
  obtain ⟨os, hos⟩ := ofNotes_of_readable hn
  obtain ⟨sorted, hsort, -⟩ := sort_unsorted c (sound_ofNotes hos)
  have hnil : Sighting.ofNotes c style notes = [] ↔ os = [] := by
    rw [← List.length_eq_zero_iff, (givesRise_ofNotes hos).length_eq, List.length_eq_zero_iff]
  rw [← check_eq_transform_iff, hasOddWindow_iff, Ne, hnil, points, bind_eq_error]
  simp only [hos, ok_bind]
  have hrest : ((if os.isEmpty then return []
        else do c.run (← Row.sort c.direction (c.unsorted os))) : Outcome (List (Row Float))) =
      .error (.transform fault) ↔ (c.aggregation.rolling.isSet ∧
        Window.read c.aggregation.rolling = .error (.transform fault)) ∧ os ≠ [] := by
    by_cases he : os = []
    · simp [he]
    · rw [if_neg (mt List.isEmpty_iff.mp he), hsort, ok_bind, run_eq_transform_iff]
      simp [he]
  simp only [hrest]
  constructor
  · rintro (h | ⟨_, hcheck, hrun, hne⟩)
    · exact .inl h
    · exact .inr ⟨⟨hcheck, hrun⟩, hne⟩
  · rintro (h | ⟨⟨hcheck, hrun⟩, hne⟩)
    · exact .inl h
    · exact .inr ⟨_, hcheck, hrun, hne⟩

/-- Lists of notes that can be observed are refused a run alike, for what is wrong with the wish.
Only over an odd window do they differ: it is refused where something is plotted of the notes, and
nowhere else. -/
theorem points_refused_iff (hn : ∀ note ∈ notes, note.Readable c style) :
    (∀ fault, c.points style notes = .error (.transform fault) ↔
      c.RefusesRun style.runningTypes fault ∨
        c.HasOddWindow style.runningTypes fault ∧ Sighting.ofNotes c style notes ≠ []) ∧
    ∀ other : List Note, (∀ note ∈ other, note.Readable c style) →
      ¬ Window.IsOdd c.aggregation.rolling ∨
        (Sighting.ofNotes c style notes = [] ↔ Sighting.ofNotes c style other = []) →
      ∀ fault, c.points style notes = .error (.transform fault) ↔
        c.points style other = .error (.transform fault) := by
  refine ⟨fun fault => points_eq_transform_iff hn, fun other ho hsame fault => ?_⟩
  rw [points_eq_transform_iff hn, points_eq_transform_iff ho]
  obtain hodd | hsame := hsame
  · have hno : ¬ c.HasOddWindow style.runningTypes fault := fun h => hodd h.odd
    simp only [hno, false_and]
  · rw [Ne, Ne, hsame]

/-- How many notes there are of each kind, as a running mean over a window that is only a word. -/
def wordyMeans : Chart :=
  { tagPie with
    type := .line
    encoding := { x := FieldName.of? "kind" }
    aggregation := ⟨some .count, false, .text "abc", none⟩ }

def taskNote : Note := ⟨"a.md", [("kind", .text "task")]⟩

theorem readable_taskNote : ∀ note ∈ [taskNote], note.Readable wordyMeans {} := by
  refine List.forall_mem_singleton.mpr ⟨fun h => (h rfl).elim, ⟨_, rfl⟩, fun v hv => ?_⟩
  have hv : v ∈ [Value.text "task"] := hv
  obtain rfl := List.mem_singleton.mp hv
  exact ⟨"task", rfl⟩

theorem hasOddWindow_wordyMeans :
    wordyMeans.HasOddWindow (.texts Window.usualTypes) (.window "abc") :=
  ⟨rfl, rfl, ⟨_, rfl, rfl⟩, rfl, ⟨_, rfl, rfl⟩⟩

theorem points_refused_iff_taskNote : (∀ note ∈ [taskNote], note.Readable wordyMeans {}) ∧
    Sighting.ofNotes wordyMeans {} [taskNote] ≠ [] ∧
    wordyMeans.points {} [taskNote] = .error (.transform (.window "abc")) ∧
    wordyMeans.points {} [taskNote, taskNote] = .error (.transform (.window "abc")) := by
  have hseen : Sighting.ofNotes wordyMeans {} [taskNote] = [⟨taskNote, .text "task"⟩] := rfl
  have hne := hseen ▸ List.cons_ne_nil _ _
  have htwice : ∀ note ∈ [taskNote, taskNote], note.Readable wordyMeans {} :=
    List.forall_mem_cons.mpr ⟨readable_taskNote _ List.mem_cons_self, readable_taskNote⟩
  obtain ⟨refused, alike⟩ := points_refused_iff readable_taskNote
  have h := (refused (.window "abc")).mpr (.inr ⟨hasOddWindow_wordyMeans, hne⟩)
  refine ⟨readable_taskNote, hne, h, (alike _ htwice (.inr ?_) _).mp h⟩
  exact iff_of_false hne (List.cons_ne_nil _ _)

/-- One wish, refused over one note and granted over none. -/
theorem points_wordyMeans : (∀ note ∈ [taskNote], note.Readable wordyMeans {}) ∧
    wordyMeans.points {} [taskNote] = .error (.transform (.window "abc")) ∧
    wordyMeans.points {} [] = .ok [] := by
  have hseen : Sighting.ofNotes wordyMeans {} [taskNote] = [⟨taskNote, .text "task"⟩] := rfl
  have hne := hseen ▸ List.cons_ne_nil _ _
  exact ⟨readable_taskNote,
    (points_eq_transform_iff readable_taskNote).mpr (.inr ⟨hasOddWindow_wordyMeans, hne⟩), rfl⟩

end Chart
end NotePlot
