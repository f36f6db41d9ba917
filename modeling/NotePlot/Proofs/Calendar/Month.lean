import NotePlot.Proofs.Calendar.Label
/-! Steps of months: to the same day of the month that they lead to, with the days that this month
lacks counted into the next one. Further steps lead to later days, and from a day that all months
have steps add up. -/
namespace NotePlot.Date

variable {d e p q : Date} {a b n : Int} {y m : Nat}

/-- A month, by its year and its number in it, that lies some months after that of a date. -/
structure IsMonthsAfter (d : Date) (n : Int) (y m : Nat) : Prop where
  month : 1 ≤ m ∧ m ≤ 12
  count : (12 * y + m : Int) = 12 * d.year + d.month + n

/-- The same day of another month or, if that month lacks the day, the day of the month after it
that is as far in as the day lies beyond the end. -/
structure LandsOn (d : Date) (y m : Nat) (e : Date) : Prop where
  within : d.day ≤ daysInMonth y m → e.year = y ∧ e.month = m ∧ e.day = d.day
  beyond : daysInMonth y m < d.day →
    e.year = y ∧ e.month = m + 1 ∧ e.day = d.day - daysInMonth y m

/-- A step leads as many days past the first of a month as the day is past the first of its own. -/
theorem stepMonths_eq_ok_iff : d.stepMonths n = .ok e ↔ ∃ first : Date, first.day = 1 ∧
    (12 * first.year + first.month : Int) = 12 * d.year + d.month + n ∧
    (e.number : Int) = first.number + (d.day - 1) := by
  have hday := d.day_mem.1
  have hmonth := d.month_mem.1
  have hyear : (d.month - 1 + n).fdiv 12 = (d.month - 1 + n) / 12 :=
    Int.fdiv_eq_ediv_of_nonneg _ (by decide)
  have hmod : (d.month - 1 + n).fmod 12 = (d.month - 1 + n) % 12 :=
    Int.fmod_eq_emod_of_nonneg _ (by decide)
  unfold stepMonths
  dsimp only
  rw [hyear, hmod]
  constructor
  · intro h
    split at h
    next first hfirst =>
      obtain ⟨hy, hm, hd⟩ := of?_eq_some_iff.mp hfirst
      have hpos : 1 ≤ first.year := first.year_mem.1
      rw [stepDays_eq_ok_iff] at h
      exact ⟨first, hd, by omega, by omega⟩
    next => cases h
  · rintro ⟨first, hd, hcount, hnumber⟩
    have hmonth := first.month_mem
    have hfirst : of? (d.year + (d.month - 1 + n) / 12).toNat
        (((d.month - 1 + n) % 12).toNat + 1) 1 = some first :=
      of?_eq_some_iff.mpr ⟨by omega, by omega, hd⟩
    rw [hfirst]
    exact stepDays_eq_ok_iff.mpr (by omega)

theorem exists_landsOn (h : d.IsMonthsAfter n y m) (hy : firstYear ≤ y ∧ y ≤ lastYear) :
    ∃ e, d.stepMonths n = .ok e ∧ d.LandsOn y m e := by
  have hday := d.day_mem
  have hmost := (daysInMonth_bounds d.year d.month).2
  have hleast := (daysInMonth_bounds y m).1
  let first : Date := ⟨y, m, 1, hy, h.month, by omega⟩
  have hfirst : first.number = daysBeforeYear y + daysBeforeMonth y m := rfl
  by_cases hin : d.day ≤ daysInMonth y m
  · let e : Date := ⟨y, m, d.day, hy, h.month, hday.1, hin⟩
    have he : e.number = daysBeforeYear y + daysBeforeMonth y m + (d.day - 1) := rfl
    refine ⟨e, stepMonths_eq_ok_iff.mpr ⟨first, rfl, h.count, by omega⟩, ?_, ?_⟩
    · intro _
      exact ⟨rfl, rfl, rfl⟩
    · intro hlt
      omega
  · -- December has room for every day, so the next month is one of the same year
    have hm : m < 12 := by
      have hlast : daysInMonth y 12 = 31 := rfl
      rcases Nat.lt_or_eq_of_le h.month.2 with hlt | rfl
      · exact hlt
      · omega
    have hnext := (daysInMonth_bounds y (m + 1)).1
    have hsucc := daysBeforeMonth_succ (y := y) h.month.1
    let e : Date := ⟨y, m + 1, d.day - daysInMonth y m, hy, by omega, by omega⟩
    have he : e.number = daysBeforeYear y + daysBeforeMonth y (m + 1) +
        (d.day - daysInMonth y m - 1) := rfl
    refine ⟨e, stepMonths_eq_ok_iff.mpr ⟨first, rfl, h.count, by omega⟩, ?_, ?_⟩
    · intro hle
      omega
    · intro _
      exact ⟨rfl, rfl, rfl⟩

/-- The year that a step of months leads to. -/
def yearAfter (d : Date) (months : Int) : Int := d.year + Int.fdiv (d.month - 1 + months) 12

/-- A step of months stays in the calendar as long as its year does; that days beyond the end of a
month are counted into the next one never leads out of the last year. -/
theorem exists_stepMonths_iff :
    (∃ e, d.stepMonths n = .ok e) ↔ firstYear ≤ d.yearAfter n ∧ d.yearAfter n ≤ lastYear := by
  have hmonth := d.month_mem.1
  rw [yearAfter, Int.fdiv_eq_ediv_of_nonneg _ (by decide)]
  constructor
  · rintro ⟨e, he⟩
    obtain ⟨first, -, hcount, -⟩ := stepMonths_eq_ok_iff.mp he
    have hyear := first.year_mem
    have hfirst := first.month_mem
    omega
  · intro hyear
    have hone : firstYear = 1 := rfl
    have hafter : d.IsMonthsAfter n (d.year + (d.month - 1 + n) / 12).toNat
        (((d.month - 1 + n) % 12).toNat + 1) := ⟨by omega, by omega⟩
    obtain ⟨e, he, -⟩ := exists_landsOn hafter (by omega)
    exact ⟨e, he⟩

theorem stepMonths_strictMono (hab : a < b) (hp : d.stepMonths a = .ok p)
    (hq : d.stepMonths b = .ok q) : p.number < q.number := by
  obtain ⟨first, hfirst, hcount, hnumber⟩ := stepMonths_eq_ok_iff.mp hp
  obtain ⟨later, hlater, hcount', hnumber'⟩ := stepMonths_eq_ok_iff.mp hq
  have hearlier : first.Earlier later := by
    have hmonth := first.month_mem
    have hmonth' := later.month_mem
    unfold Earlier
    omega
  have hlt := number_lt_of_earlier hearlier
  omega

/-- Only the month counts and the day in it, not how far away the month is. -/
theorem stepMonths_congr (hday : p.day = d.day)
    (hcount : (12 * p.year + p.month + a : Int) = 12 * d.year + d.month + b) :
    p.stepMonths a = d.stepMonths b := by
  have hyear : (p.year + (p.month - 1 + a) / 12 : Int) = d.year + (d.month - 1 + b) / 12 := by omega
  have hmonth : ((p.month - 1 + a) % 12 : Int) = (d.month - 1 + b) % 12 := by omega
  unfold stepMonths
  dsimp only
  rw [Int.fdiv_eq_ediv_of_nonneg _ (by decide), Int.fdiv_eq_ediv_of_nonneg _ (by decide),
    Int.fmod_eq_emod_of_nonneg _ (by decide), Int.fmod_eq_emod_of_nonneg _ (by decide), hyear, hmonth,
    hday]

/-- A day that all months have is met in every month. -/
theorem same_day_of_stepMonths (hday : d.day ≤ 28) (h : d.stepMonths n = .ok e) :
    e.day = d.day ∧ (12 * e.year + e.month : Int) = 12 * d.year + d.month + n := by
  obtain ⟨first, -, hcount, -⟩ := stepMonths_eq_ok_iff.mp h
  have hleast := (daysInMonth_bounds first.year first.month).1
  obtain ⟨e', he', hlands⟩ := exists_landsOn ⟨first.month_mem, hcount⟩ first.year_mem
  obtain rfl := Except.ok.inj (h.symm.trans he')
  obtain ⟨hy, hm, hd⟩ := hlands.within (by omega)
  exact ⟨hd, by omega⟩

theorem stepMonths_stepMonths (hday : d.day ≤ 28) (h : d.stepMonths a = .ok p) :
    p.stepMonths b = d.stepMonths (a + b) := by
  obtain ⟨hd, hcount⟩ := same_day_of_stepMonths hday h
  exact stepMonths_congr hd (by omega)

theorem stepMonths_zero (d : Date) : d.stepMonths 0 = .ok d := by
  have hday := d.day_mem.1
  have hleast := (daysInMonth_bounds d.year d.month).1
  let first : Date := ⟨d.year, d.month, 1, d.year_mem, d.month_mem, by omega⟩
  refine stepMonths_eq_ok_iff.mpr ⟨first, rfl, by simp [first], ?_⟩
  have hfirst : first.number = daysBeforeYear d.year + daysBeforeMonth d.year d.month := rfl
  unfold number at *
  omega

end NotePlot.Date
