import NotePlot.Calendar.Relative
/-! Day numbers: each day of the calendar has one of the numbers below the count of all days, and
each of these numbers belongs to one day. So a step of some days stays in the calendar just as long
as the sum of number and step does. -/
namespace NotePlot

variable {d e : Date} {y m k n : Nat} {s : Int}

def daysInYear (y : Nat) : Nat := if isLeap y then 366 else 365

theorem isLeap_iff : isLeap y ↔ y % 4 = 0 ∧ (y % 100 ≠ 0 ∨ y % 400 = 0) := by
  simp [isLeap]

theorem daysBeforeYear_succ (hy : 1 ≤ y) :
    daysBeforeYear (y + 1) = daysBeforeYear y + daysInYear y := by
  obtain ⟨x, rfl⟩ : ∃ x, y = x + 1 := ⟨y - 1, by omega⟩
  -- each of the three rules for leap years counts the years that it is about
  have h4 : (x + 1) / 4 = x / 4 + if (x + 1) % 4 = 0 then 1 else 0 := by split <;> omega
  have h100 : (x + 1) / 100 = x / 100 + if (x + 1) % 100 = 0 then 1 else 0 := by split <;> omega
  have h400 : (x + 1) / 400 = x / 400 + if (x + 1) % 400 = 0 then 1 else 0 := by split <;> omega
  have hfew : x / 100 ≤ 365 * x := by omega
  have hleap := isLeap_iff (y := x + 1)
  simp only [daysBeforeYear, daysInYear, Nat.add_sub_cancel, h4, h100, h400]
  by_cases hl : isLeap (x + 1)
  · obtain ⟨h4, h⟩ := hleap.mp hl
    rw [if_pos hl, if_pos h4]
    obtain h100 | h400 := h
    · rw [if_neg h100, if_neg (by omega)]
      omega
    · rw [if_pos h400, if_pos (by omega)]
      omega
  · rw [if_neg hl]
    by_cases h4 : (x + 1) % 4 = 0
    · have h100 : (x + 1) % 100 = 0 := Decidable.byContradiction fun h => hl (hleap.mpr ⟨h4, .inl h⟩)
      have h400 : (x + 1) % 400 ≠ 0 := fun h => hl (hleap.mpr ⟨h4, .inr h⟩)
      rw [if_pos h4, if_pos h100, if_neg h400]
      omega
    · rw [if_neg h4, if_neg (by omega), if_neg (by omega)]
      omega

theorem daysBeforeYear_mono {a b : Nat} (h : a ≤ b) : daysBeforeYear a ≤ daysBeforeYear b := by
  induction h with
  | refl => exact Nat.le_refl _
  | @step b _ ih =>
    obtain rfl | hb := Nat.eq_zero_or_pos b
    · exact Nat.le_trans ih (by decide)
    · rw [Nat.succ_eq_add_one, daysBeforeYear_succ hb]
      omega

/-- The year of a day begins before it, and the next one does not. -/
theorem Date.yearOf_spec (n : Nat) : 1 ≤ yearOf n ∧ daysBeforeYear (yearOf n) ≤ n ∧
    n < daysBeforeYear (yearOf n + 1) := by
  unfold yearOf daysBeforeYear
  dsimp only
  split <;> omega

theorem daysBeforeMonth_succ (hm : 1 ≤ m) :
    daysBeforeMonth y (m + 1) = daysBeforeMonth y m + daysInMonth y m := by
  rw [daysBeforeMonth, if_neg (by omega)]

theorem daysBeforeMonth_mono {a b : Nat} (h : a ≤ b) :
    daysBeforeMonth y a ≤ daysBeforeMonth y b := by
  induction h with
  | refl => exact Nat.le_refl _
  | @step b _ ih =>
    obtain rfl | hb := Nat.eq_zero_or_pos b
    · exact ih
    · rw [Nat.succ_eq_add_one, daysBeforeMonth_succ hb]
      omega

/-- The months of a year make up the year. -/
theorem daysBeforeMonth_thirteen (y : Nat) : daysBeforeMonth y 13 = daysInYear y := by
  have hsum : daysBeforeMonth y 13 = 31 + daysInMonth y 2 + 31 + 30 + 31 + 30 + 31 + 31 + 30 + 31 +
      30 + 31 := rfl
  rw [hsum, daysInMonth, if_pos rfl, daysInYear]
  split <;> rfl

theorem length_filter_range {p : Nat → Bool} (hm : m ≤ n) (hin : ∀ i, i < m → p i = true)
    (hout : ∀ i, m ≤ i → p i = false) : ((List.range n).filter p).length = m := by
  induction n with
  | zero => exact (Nat.le_zero.mp hm).symm
  | succ n ih =>
    rw [List.range_succ, List.filter_append, List.length_append]
    obtain hlt | rfl : m ≤ n ∨ m = n + 1 := by omega
    · simp [ih hlt, hout n hlt]
    · have hall : (List.range n).filter p = List.range n :=
        List.filter_eq_self.mpr fun i hi => hin i (by have := List.mem_range.mp hi; omega)
      simp [hall, hin n]

namespace Date

/-- A day of a year lies in the month that begins before it and ends after it. -/
theorem monthOf_eq (hm : 1 ≤ m ∧ m ≤ 12) (hk : daysBeforeMonth y m ≤ k)
    (hlt : k < daysBeforeMonth y (m + 1)) : monthOf y k = m := by
  refine length_filter_range hm.2 (fun i hi => ?_) fun i hi => ?_
  · exact decide_eq_true (Nat.le_trans (daysBeforeMonth_mono hi) hk)
  · exact decide_eq_false (Nat.not_le.mpr (Nat.lt_of_lt_of_le hlt (daysBeforeMonth_mono (by omega))))

theorem exists_month (n : Nat) (hk : k < daysBeforeMonth y (n + 1)) :
    ∃ m, (1 ≤ m ∧ m ≤ n) ∧ daysBeforeMonth y m ≤ k ∧ k < daysBeforeMonth y (m + 1) := by
  induction n with
  | zero => exact (Nat.not_lt_zero _ hk).elim
  | succ n ih =>
    by_cases hn : daysBeforeMonth y (n + 1) ≤ k
    · exact ⟨n + 1, ⟨by omega, Nat.le_refl _⟩, hn, hk⟩
    · obtain ⟨m, ⟨hm, hmn⟩, h⟩ := ih (Nat.lt_of_not_le hn)
      exact ⟨m, ⟨hm, by omega⟩, h⟩

theorem of?_eq_some_iff : of? y m k = some d ↔ d.year = y ∧ d.month = m ∧ d.day = k := by
  constructor
  · intro h
    unfold of? at h
    split at h <;> cases h
    exact ⟨rfl, rfl, rfl⟩
  · rintro ⟨rfl, rfl, rfl⟩
    exact of?_eq_some

/-- The days of a month follow one another within it. -/
theorem number_bounds (d : Date) :
    daysBeforeMonth d.year d.month + (d.day - 1) < daysBeforeMonth d.year (d.month + 1) ∧
      daysBeforeMonth d.year (d.month + 1) ≤ daysInYear d.year := by
  have hday := d.day_mem
  have hmonth := d.month_mem
  rw [daysBeforeMonth_succ hmonth.1, ← daysBeforeMonth_thirteen, ← daysBeforeMonth_succ hmonth.1]
  refine ⟨?_, daysBeforeMonth_mono (by omega)⟩
  rw [daysBeforeMonth_succ hmonth.1]
  omega

theorem yearOf_number (d : Date) : yearOf d.number = d.year := by
  have hyear : 1 ≤ d.year := d.year_mem.1
  obtain ⟨hmonth, hlast⟩ := d.number_bounds
  have hsucc := daysBeforeYear_succ hyear
  have hnumber : d.number = daysBeforeYear d.year + daysBeforeMonth d.year d.month + (d.day - 1) :=
    rfl
  obtain ⟨-, hle, hlt⟩ := yearOf_spec d.number
  -- years before the one of the day end too early, later ones begin too late
  by_cases h : yearOf d.number < d.year
  · have : daysBeforeYear (yearOf d.number + 1) ≤ daysBeforeYear d.year := daysBeforeYear_mono h
    omega
  · by_cases h' : d.year < yearOf d.number
    · have : daysBeforeYear (d.year + 1) ≤ daysBeforeYear (yearOf d.number) :=
        daysBeforeYear_mono h'
      omega
    · omega

theorem ofNumber?_number (d : Date) : ofNumber? d.number = some d := by
  have hmonth := d.number_bounds.1
  have hk : d.number - daysBeforeYear d.year = daysBeforeMonth d.year d.month + (d.day - 1) := by
    unfold number
    omega
  have hm := monthOf_eq d.month_mem (Nat.le_add_right _ (d.day - 1)) hmonth
  unfold ofNumber?
  simp only [yearOf_number, hk, hm]
  have hday := d.day_mem
  exact of?_eq_some_iff.mpr ⟨rfl, rfl, by omega⟩

/-- There is a day with each number below the count of days. -/
theorem exists_number (h : n < dayCount) : ∃ d : Date, d.number = n := by
  obtain ⟨hfirst, hle, hlt⟩ := yearOf_spec n
  have hlast : yearOf n ≤ 9999 := by
    refine Nat.le_of_not_lt fun hlast => ?_
    have := daysBeforeYear_mono hlast
    exact absurd h (Nat.not_lt.mpr (Nat.le_trans this hle))
  rw [daysBeforeYear_succ hfirst, ← daysBeforeMonth_thirteen] at hlt
  obtain ⟨m, hm, hmle, hmlt⟩ := exists_month 12 (Nat.sub_lt_left_of_lt_add hle hlt)
  have hday := daysBeforeMonth_succ (y := yearOf n) hm.1
  refine ⟨⟨yearOf n, m, n - daysBeforeYear (yearOf n) - daysBeforeMonth (yearOf n) m + 1,
    ⟨hfirst, hlast⟩, hm, by omega⟩, ?_⟩
  simp only [number]
  omega

theorem number_lt (d : Date) : d.number < dayCount := by
  have hyear := d.year_mem
  obtain ⟨hmonth, hlast⟩ := d.number_bounds
  have hsucc := daysBeforeYear_succ hyear.1
  have hend : daysBeforeYear (d.year + 1) ≤ dayCount := daysBeforeYear_mono (Nat.succ_le_succ hyear.2)
  unfold number
  omega

theorem ofNumber?_eq_some_iff : ofNumber? n = some d ↔ d.number = n := by
  constructor
  · intro h
    have hn : n < dayCount := by
      have hyear : d.year = yearOf n := (of?_eq_some_iff.mp h).1
      have hlast : yearOf n + 1 ≤ lastYear + 1 := hyear ▸ Nat.succ_le_succ d.year_mem.2
      exact Nat.lt_of_lt_of_le (yearOf_spec n).2.2 (daysBeforeYear_mono hlast)
    obtain ⟨e, rfl⟩ := exists_number hn
    rw [ofNumber?_number] at h
    rw [Option.some.inj h]
  · rintro rfl
    exact ofNumber?_number d

/-- A step of days leads to the day with the sum for its number. -/
theorem shift?_eq_some_iff : d.shift? s = some e ↔ (e.number : Int) = d.number + s := by
  unfold shift?
  dsimp only
  split
  next h => exact iff_of_false nofun (by omega)
  next h =>
    rw [ofNumber?_eq_some_iff]
    omega

theorem stepDays_eq_ok_iff : d.stepDays s = .ok e ↔ (e.number : Int) = d.number + s := by
  rw [← shift?_eq_some_iff]
  unfold stepDays
  cases d.shift? s <;> simp

theorem exists_stepDays_iff :
    (∃ e, d.stepDays s = .ok e) ↔ 0 ≤ d.number + s ∧ d.number + s < dayCount := by
  simp only [stepDays_eq_ok_iff]
  constructor
  · rintro ⟨e, h⟩
    have := e.number_lt
    omega
  · rintro ⟨hnonneg, hlt⟩
    obtain ⟨e, he⟩ := exists_number (n := (d.number + s).toNat) (by omega)
    exact ⟨e, by omega⟩

theorem daysInMonth_bounds (y m : Nat) : 28 ≤ daysInMonth y m ∧ daysInMonth y m ≤ 31 := by
  unfold daysInMonth
  split
  · split <;> decide
  · split <;> decide

end Date
end NotePlot
