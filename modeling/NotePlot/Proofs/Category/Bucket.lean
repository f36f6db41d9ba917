import NotePlot.Category.Bucket
import NotePlot.Proofs.Calendar.Label

/-! Labels of buckets: two days have one label just when they fall in one period of the calendar. -/
namespace NotePlot

open Text

variable {b : Bucket} {d e : Date} {v w : Value}

namespace Bucket

/-- Two days fall in one period of a bucket. Weeks go from Monday to Sunday, across the ends of
months and years, and quarters are three months from January on. Without a bucket there are no
periods. -/
def SamePeriod : Bucket → Date → Date → Prop
  | .none, _, _ => False
  | .auto, d, e | .day, d, e => d = e
  | .week, d, e => ∃ monday, d.InWeekOf monday ∧ e.InWeekOf monday
  | .month, d, e => d.year = e.year ∧ d.month = e.month
  | .quarter, d, e => d.year = e.year ∧ (d.month - 1) / 3 = (e.month - 1) / 3
  | .year, d, e => d.year = e.year

theorem length_quarter (d : Date) : (padded 1 d.quarter).length = 1 := by
  refine length_padded (by decide) ?_
  have := d.month_mem
  unfold Date.quarter
  omega

theorem quarter_inj :
    toString d.year ++ "-Q" ++ toString d.quarter = toString e.year ++ "-Q" ++ toString e.quarter ↔
      d.year = e.year ∧ d.quarter = e.quarter := by
  constructor
  · intro h
    rw [← String.toList_inj] at h
    simp only [String.toList_append, toList_toString] at h
    obtain ⟨hleft, hquarter⟩ := List.append_inj' h ((length_quarter d).trans (length_quarter e).symm)
    exact ⟨padded_inj.mp (List.append_inj' hleft rfl).1, padded_inj.mp hquarter⟩
  · rintro ⟨hy, hq⟩
    rw [hy, hq]

/-- Days with labels have the same one if they fall in one period, and only then. -/
theorem label?_eq_iff (hb : b ≠ .none) :
    ∃ l k : String, b.label? d = some l ∧ b.label? e = some k ∧ (l = k ↔ b.SamePeriod d e) := by
  cases b with
  | none => exact absurd rfl hb
  | auto => exact ⟨_, _, rfl, rfl, Date.dayLabel_inj⟩
  | day => exact ⟨_, _, rfl, rfl, Date.dayLabel_inj⟩
  | week =>
    refine ⟨_, _, rfl, rfl, ?_⟩
    rw [String.append_left_inj, Date.dayLabel_inj]
    constructor
    · intro h
      exact ⟨d.monday, Date.inWeekOf_iff.mpr rfl, Date.inWeekOf_iff.mpr h.symm⟩
    · rintro ⟨monday, hd, he⟩
      exact (Date.inWeekOf_iff.mp hd).trans (Date.inWeekOf_iff.mp he).symm
  | month => exact ⟨_, _, rfl, rfl, Date.monthLabel_inj⟩
  | quarter =>
    refine ⟨_, _, rfl, rfl, quarter_inj.trans ?_⟩
    simp only [Date.quarter, Nat.add_right_cancel_iff, SamePeriod]
  | year => exact ⟨_, _, rfl, rfl, toString_inj⟩

/-- Each bucket labels the periods of the calendar. All that tells a day takes on the label of its
period, so that two such values are given one label if they fall in one period, and only then.
Without a bucket they stay as they are. -/
theorem relabel_periods (hv : v.TellsDay d) (hw : w.TellsDay e) :
    (b = .none → b.relabel v = v ∧ b.relabel w = w) ∧
    (b ≠ .none → ∃ l k : String, b.relabel v = .text l ∧ b.relabel w = .text k ∧
      (l = k ↔ b.SamePeriod d e)) := by
  have hlabel {v : Value} {d : Date} (h : v.TellsDay d) :
      b.relabel v = ((b.label? d).map Value.text).getD v := by
    rw [relabel, relabel?, Value.day?_eq_some_iff.mpr h, Option.bind_some]
  rw [hlabel hv, hlabel hw]
  constructor
  · rintro rfl
    exact ⟨rfl, rfl⟩
  · intro hb
    obtain ⟨l, k, hl, hk, hiff⟩ := label?_eq_iff (d := d) (e := e) hb
    rw [hl, hk]
    exact ⟨l, k, rfl, rfl, hiff⟩

/-- A Monday and the Sunday after it, in two years. -/
theorem relabel_periods_newYear :
    (Value.scalar (.date { year := 2024, month := 12, day := 30 })).TellsDay
      { year := 2024, month := 12, day := 30 } ∧
    (Value.text "2025-01-05T12:00").TellsDay { year := 2025, month := 1, day := 5 } ∧
    (∃ l k : String, relabel .week (.scalar (.date { year := 2024, month := 12, day := 30 })) =
      .text l ∧ relabel .week (.text "2025-01-05T12:00") = .text k ∧ l = k) ∧
    ∃ l k : String, relabel .year (.scalar (.date { year := 2024, month := 12, day := 30 })) =
      .text l ∧ relabel .year (.text "2025-01-05T12:00") = .text k ∧ l ≠ k := by
  have hmonday : (Value.scalar (.date { year := 2024, month := 12, day := 30 })).TellsDay
      { year := 2024, month := 12, day := 30 } := .inl rfl
  have hsunday : (Value.text "2025-01-05T12:00").TellsDay { year := 2025, month := 1, day := 5 } :=
    Value.day?_eq_some_iff.mp rfl
  refine ⟨hmonday, hsunday, ?_, ?_⟩
  · obtain ⟨l, k, hl, hk, hiff⟩ :=
      (relabel_periods (b := .week) hmonday hsunday).2 (by decide)
    refine ⟨l, k, hl, hk, hiff.mpr ⟨{ year := 2024, month := 12, day := 30 }, ?_, ?_⟩⟩
    · unfold Date.InWeekOf
      decide
    · unfold Date.InWeekOf
      decide
  · obtain ⟨l, k, hl, hk, hiff⟩ :=
      (relabel_periods (b := .year) hmonday hsunday).2 (by decide)
    have hyears : 2024 ≠ 2025 := by decide
    exact ⟨l, k, hl, hk, fun h => hyears (hiff.mp h)⟩

theorem relabel_of_day? (b : Bucket) (h : v.day? = some d) :
    b.relabel v = ((b.label? d).map Value.text).getD v := by
  rw [relabel, relabel?, h, Option.bind_some]

theorem relabel_of_no_day (b : Bucket) (h : v.day? = Option.none) : b.relabel v = v := by
  rw [relabel, relabel?, h, Option.bind_none, Option.map_none, Option.getD_none]

/-- A label that begins with a day tells this day if its year has four digits. With fewer digits the
label tells none. -/
theorem day?_dayLabel (d : Date) (ending : String) (h : clockAfterDay ending.toList = (0, 0, 0)) :
    (Value.text (d.dayLabel ++ ending)).day? = if 1000 ≤ d.year then some d else Option.none := by
  split
  next hyear =>
    have hlead : leadingMoment? (d.dayLabel ++ ending).toList = some (some (.midnight d)) := by
      rw [Date.dayLabel_eq_iso hyear, String.toList_append, Date.iso, String.toList_ofList]
      exact leadingMoment?_isoChars h
    change (leadingMoment? (d.dayLabel ++ ending).toList).join.map Moment.date = some d
    rw [hlead]
    rfl
  next hyear =>
    apply Value.day?_text_eq_none
    intro hbegins
    rw [String.toList_append, Date.dayLabel, String.toList_ofList, List.append_assoc] at hbegins
    have hfour := length_eq_of_beginsWithDay hbegins (hyphen_not_mem_of_number? (number?_padded ..))
    have hthree := length_padded_one_le 3 d.year (by decide) (by omega)
    omega

/-- From the year 1000 on the label of a day is given to all that tells the day, and to nothing
else. -/
theorem relabel_day_eq_iff (h : 1000 ≤ d.year) :
    relabel .day v = .text d.iso ↔ v.day? = some d := by
  have hiso : (Value.text d.iso).day? = some d := by
    have hread := day?_dayLabel d "" rfl
    rwa [String.append_empty, Date.dayLabel_eq_iso h, if_pos h] at hread
  constructor
  · intro hlabel
    cases hv : v.day? with
    | none =>
      rw [relabel_of_no_day .day hv] at hlabel
      rw [hlabel, hiso] at hv
      cases hv
    | some e =>
      rw [relabel_of_day? .day hv] at hlabel
      have hsame : e.dayLabel = d.iso := Scalar.text.inj (Value.scalar.inj hlabel)
      rw [← Date.dayLabel_eq_iso h, Date.dayLabel_inj] at hsame
      rw [hsame]
  · intro hv
    rw [relabel_of_day? .day hv, ← Date.dayLabel_eq_iso h]
    rfl

theorem day?_of_length_lt {l : String} (h : l.toList.length < 10) : (Value.text l).day? = Option.none := by
  apply Value.day?_text_eq_none
  intro hbegins
  have := length_of_beginsWithDay hbegins
  omega

/-- What a label tells, if it tells a day, is a day with that label. -/
theorem label?_of_day? {l : String} (hl : b.label? d = some l) (he : (Value.text l).day? = some e) :
    b.label? e = some l := by
  have hyear := length_padded_one_le 4 d.year (by decide) d.year_lt
  have hday (h : some d.dayLabel = some l) : some e.dayLabel = some l := by
    obtain rfl := Option.some.inj h
    have hread := day?_dayLabel d "" rfl
    rw [String.append_empty, he] at hread
    split at hread
    · rw [Option.some.inj hread]
    · cases hread
  -- the labels of longer periods than weeks are too short for a day
  have hshort (h : l.toList.length < 10) : b.label? e = some l := by
    rw [day?_of_length_lt h] at he
    cases he
  cases b with
  | none => cases hl
  | auto => exact hday hl
  | day => exact hday hl
  | week =>
    obtain rfl := Option.some.inj hl
    rw [day?_dayLabel d.monday " (W)" rfl] at he
    split at he
    · obtain rfl := Option.some.inj he
      rw [label?, Date.monday_monday]
    · cases he
  | month =>
    obtain rfl := Option.some.inj hl
    apply hshort
    simp only [Date.monthLabel, String.toList_ofList, List.length_append, List.length_cons,
      d.length_month]
    omega
  | quarter =>
    obtain rfl := Option.some.inj hl
    apply hshort
    have hquarter := length_quarter d
    simp only [String.toList_append, toList_toString, List.length_append, hquarter]
    have hmark : "-Q".toList.length = 2 := rfl
    omega
  | year =>
    obtain rfl := Option.some.inj hl
    apply hshort
    rw [toList_toString]
    omega

/-- The Monday of a week is never out of reach, so each way of relabelling comes to the same. -/
theorem relabelByStep_eq (b : Bucket) (v : Value) : b.relabelByStep v = .ok (b.relabel v) := by
  unfold relabelByStep
  split
  next d hd =>
    rw [Date.stepDays_weekday, relabel_of_day? .week hd]
    rfl
  next _ => rfl

theorem relabel_relabel (b : Bucket) (v : Value) : b.relabel (b.relabel v) = b.relabel v := by
  cases hd : v.day? with
  | none => rw [relabel_of_no_day b hd, relabel_of_no_day b hd]
  | some d =>
    cases hl : b.label? d with
    | none =>
      have hsame : b.relabel v = v := by rw [relabel_of_day? b hd, hl]; rfl
      rw [hsame, hsame]
    | some l =>
      have htext : b.relabel v = .text l := by rw [relabel_of_day? b hd, hl]; rfl
      rw [htext]
      -- a label may tell a day again, but then one with the same label
      cases he : (Value.text l).day? with
      | none => exact relabel_of_no_day b he
      | some e =>
        rw [relabel_of_day? b he, label?_of_day? hl he]
        rfl

/-- Relabelling never fails, as the week of each day begins inside the calendar, in its first year
too. And what it gives, be it a label or the value as it was, stays as it is when it is relabelled.
-/
theorem relabel_settles (b : Bucket) (v : Value) :
    (∀ d : Date, ∃ monday, d.stepDays (-d.weekday) = .ok monday ∧ d.InWeekOf monday) ∧
    b.relabelByStep v = .ok (b.relabel v) ∧
    b.relabelByStep (b.relabel v) = .ok (b.relabel v) := by
  refine ⟨fun d => ?_, b.relabelByStep_eq v, ?_⟩
  · exact ⟨d.monday, d.stepDays_weekday, Date.inWeekOf_iff.mpr rfl⟩
  · rw [relabelByStep_eq, relabel_relabel]

end Bucket
end NotePlot
