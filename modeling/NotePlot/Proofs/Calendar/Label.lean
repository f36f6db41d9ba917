import NotePlot.Proofs.Calendar.Date
import NotePlot.Proofs.Value.Moment
import Mathlib.Data.String.Basic

/-! Written days: in each form in which a day, a month or a year is written it can be told from all
others, and days in full, with four digits for the year, are in the order of the calendar as texts.
-/
namespace NotePlot

open Text

namespace Date

variable {d e : Date} {cs rest : List Char}

theorem number_inj : d.number = e.number ↔ d = e := by
  refine ⟨fun h => ?_, congrArg _⟩
  have hd := ofNumber?_number d
  rw [h, ofNumber?_number] at hd
  exact (Option.some.inj hd).symm

/-- A day is earlier by its year, in one year by its month, and in one month by its day. -/
def Earlier (d e : Date) : Prop :=
  d.year < e.year ∨
    d.year = e.year ∧ (d.month < e.month ∨ d.month = e.month ∧ d.day < e.day)

theorem number_lt_of_earlier (h : d.Earlier e) : d.number < e.number := by
  obtain ⟨hmonth, hlast⟩ := d.number_bounds
  obtain hyear | ⟨hyear, hlt | ⟨hm, hday⟩⟩ := h
  · have hsucc := daysBeforeYear_succ d.year_mem.1
    have hmono : daysBeforeYear (d.year + 1) ≤ daysBeforeYear e.year := daysBeforeYear_mono hyear
    unfold number
    omega
  · have hmono : daysBeforeMonth d.year (d.month + 1) ≤ daysBeforeMonth d.year e.month :=
      daysBeforeMonth_mono hlt
    unfold number
    rw [← hyear]
    omega
  · have hfirst := d.day_mem.1
    unfold number
    rw [← hyear, ← hm]
    omega

theorem earlier_trichotomy (d e : Date) : d.Earlier e ∨ d = e ∨ e.Earlier d := by
  obtain hy | hy | hy := Nat.lt_trichotomy d.year e.year
  · exact .inl (.inl hy)
  · obtain hm | hm | hm := Nat.lt_trichotomy d.month e.month
    · exact .inl (.inr ⟨hy, .inl hm⟩)
    · obtain hd | hd | hd := Nat.lt_trichotomy d.day e.day
      · exact .inl (.inr ⟨hy, .inr ⟨hm, hd⟩⟩)
      · exact .inr (.inl (Date.ext hy hm hd))
      · exact .inr (.inr (.inr ⟨hy.symm, .inr ⟨hm.symm, hd⟩⟩))
    · exact .inr (.inr (.inr ⟨hy.symm, .inl hm⟩))
  · exact .inr (.inr (.inl hy))

theorem number_lt_iff : d.number < e.number ↔ d.Earlier e := by
  refine ⟨fun h => ?_, number_lt_of_earlier⟩
  obtain hlt | rfl | hgt := earlier_trichotomy d e
  · exact hlt
  · exact absurd h (Nat.lt_irrefl _)
  · exact absurd (number_lt_of_earlier hgt) (Nat.not_lt.mpr h.le)

/-- A week begins inside the calendar, on the last day up to the given one whose number is a
multiple of seven. -/
theorem number_monday (d : Date) : d.monday.number = d.number - d.number % 7 := by
  obtain ⟨m, hm⟩ := exists_number (n := d.number - d.number % 7)
    (Nat.lt_of_le_of_lt (Nat.sub_le ..) d.number_lt)
  have hle := Nat.mod_le d.number 7
  have hshift : d.shift? (-d.weekday) = some m := by
    rw [shift?_eq_some_iff, weekday]
    omega
  rw [monday, hshift, Option.getD_some, hm]

theorem weekday_monday (d : Date) : d.monday.weekday = 0 := by
  rw [weekday, number_monday]
  omega

/-- A day lies in the week of a Monday. -/
def InWeekOf (d m : Date) : Prop :=
  m.weekday = 0 ∧ m.number ≤ d.number ∧ d.number ≤ m.number + 6

theorem inWeekOf_iff {m : Date} : d.InWeekOf m ↔ d.monday = m := by
  have hmonday := number_monday d
  have hweekday := weekday_monday d
  rw [← number_inj, InWeekOf]
  unfold weekday at *
  omega

theorem stepDays_weekday (d : Date) : d.stepDays (-d.weekday) = .ok d.monday := by
  have hle := Nat.mod_le d.number 7
  rw [stepDays_eq_ok_iff, number_monday, weekday]
  omega

theorem monday_monday (d : Date) : d.monday.monday = d.monday := by
  have hweekday := weekday_monday d
  have hself : d.monday.InWeekOf d.monday := ⟨hweekday, le_rfl, by omega⟩
  exact inWeekOf_iff.mp hself

theorem month_lt (d : Date) : d.month < 10 ^ 2 := by
  have := d.month_mem
  omega

theorem day_lt (d : Date) : d.day < 10 ^ 2 := by
  have := d.day_mem
  have := (daysInMonth_bounds d.year d.month).2
  omega

theorem year_lt (d : Date) : d.year < 10 ^ 4 := by
  have : d.year ≤ 9999 := d.year_mem.2
  omega

theorem length_month (d : Date) : (padded 2 d.month).length = 2 :=
  length_padded (by decide) d.month_lt

theorem length_day (d : Date) : (padded 2 d.day).length = 2 := length_padded (by decide) d.day_lt

theorem length_year (d : Date) : (padded 4 d.year).length = 4 := length_padded (by decide) d.year_lt

/-- A text is made of the year in any number of digits, and the month and the day in two digits
each. The digits may be those of any script. -/
def SpelledBy (d : Date) (cs : List Char) : Prop :=
  ∃ ys ms ds, cs = ys ++ '-' :: (ms ++ '-' :: ds) ∧ (ms.length = 2 ∧ ds.length = 2) ∧
    number? ys = some d.year ∧ number? ms = some d.month ∧ number? ds = some d.day

/-- A text does not spell two days. -/
theorem SpelledBy.unique (hd : d.SpelledBy cs) (he : e.SpelledBy cs) : d = e := by
  obtain ⟨ys, ms, ds, rfl, ⟨hms, hds⟩, hy, hm, hk⟩ := hd
  obtain ⟨ys', ms', ds', heq, ⟨hms', hds'⟩, hy', hm', hk'⟩ := he
  -- the year is what comes before the last six characters
  have hlength : ('-' :: (ms ++ '-' :: ds)).length = ('-' :: (ms' ++ '-' :: ds')).length := by
    simp [hms, hds, hms', hds']
  obtain ⟨rfl, hrest⟩ := List.append_inj' heq hlength
  obtain ⟨rfl, hlast⟩ := List.append_inj (List.cons.inj hrest).2 (hms.trans hms'.symm)
  obtain rfl := (List.cons.inj hlast).2
  refine Date.ext ?_ ?_ ?_
  · exact Option.some.inj (hy.symm.trans hy')
  · exact Option.some.inj (hm.symm.trans hm')
  · exact Option.some.inj (hk.symm.trans hk')

theorem spelledBy_dayLabel (d : Date) : d.SpelledBy d.dayLabel.toList := by
  rw [dayLabel, String.toList_ofList]
  exact ⟨_, _, _, rfl, ⟨d.length_month, d.length_day⟩, number?_padded .., number?_padded ..,
    number?_padded ..⟩

theorem dayLabel_inj : d.dayLabel = e.dayLabel ↔ d = e :=
  ⟨fun h => d.spelledBy_dayLabel.unique (h ▸ e.spelledBy_dayLabel), congrArg _⟩

theorem monthLabel_inj : d.monthLabel = e.monthLabel ↔ d.year = e.year ∧ d.month = e.month := by
  constructor
  · intro h
    have hlength : ('-' :: padded 2 d.month).length = ('-' :: padded 2 e.month).length := by
      simp [length_month]
    obtain ⟨hy, hm⟩ := List.append_inj' (String.ofList_inj.mp h) hlength
    exact ⟨padded_inj.mp hy, padded_inj.mp (List.cons.inj hm).2⟩
  · rintro ⟨hy, hm⟩
    rw [monthLabel, hy, hm]
    rfl

/-- With four digits for the year the texts of days are in the order of the days. -/
theorem iso_lt_iff : d.iso < e.iso ↔ d.number < e.number := by
  have hyears := d.length_year.trans e.length_year.symm
  have hmonths := d.length_month.trans e.length_month.symm
  rw [number_lt_iff, Earlier, String.lt_iff_toList_lt, iso, iso, String.toList_ofList,
    String.toList_ofList, isoChars, isoChars, append_lt_append_iff hyears,
    padded_lt_iff (by decide) d.year_lt e.year_lt, padded_inj, List.cons_lt_cons_self,
    append_lt_append_iff hmonths, padded_lt_iff (by decide) d.month_lt e.month_lt, padded_inj,
    List.cons_lt_cons_self, padded_lt_iff (by decide) d.day_lt e.day_lt]

/-- Labels show the four digits of a year that has them. -/
theorem dayLabel_eq_iso (h : 1000 ≤ d.year) : d.dayLabel = d.iso := by
  have hyear : padded 4 d.year = padded 1 d.year := padded_eq_of_le h (by decide)
  rw [dayLabel, iso, isoChars, hyear]

/-- The day at the beginning of a text is spelled by its first ten characters. -/
theorem spelledBy_take (h : takeDay? cs = some ((d.year, d.month, d.day), rest)) :
    d.SpelledBy (cs.take 10) ∧ (cs.take 10).length = 10 := by
  obtain ⟨ys, ms, ds, rfl, ⟨hys, hms, hds⟩, hy, hm, hk⟩ := takeDay?_eq_some_iff.mp h
  have hlength : (ys ++ '-' :: (ms ++ '-' :: ds)).length = 10 := by simp [hys, hms, hds]
  rw [List.take_left' hlength]
  exact ⟨⟨ys, ms, ds, rfl, ⟨hms, hds⟩, hy, hm, hk⟩, hlength⟩

/-- Ten characters of ASCII spell a day in full. -/
theorem SpelledBy.eq_isoChars (h : d.SpelledBy cs) (hlength : cs.length = 10)
    (hascii : ∀ c ∈ cs, c.toNat < 128) : cs = d.isoChars := by
  obtain ⟨ys, ms, ds, rfl, ⟨hms, hds⟩, hy, hm, hk⟩ := h
  have written {cs : List Char} {n width : Nat} (hn : number? cs = some n) (hw : cs.length = width)
      (hc : ∀ c ∈ cs, c.toNat < 128) : cs = padded width n := by
    obtain rfl := hw
    exact eq_padded_of_number? hn hc
  simp only [List.mem_append, List.mem_cons] at hascii
  have hys : ys.length = 4 := by
    simp only [List.length_append, List.length_cons, hms, hds] at hlength
    omega
  rw [isoChars, ← written hy hys fun c hc => hascii c (.inl hc),
    ← written hm hms fun c hc => hascii c (.inr (.inr (.inl hc))),
    ← written hk hds fun c hc => hascii c (.inr (.inr (.inr (.inr hc))))]

/-- A day in full is read back, whatever stands after it. -/
theorem takeDay?_isoChars (d : Date) (rest : List Char) :
    takeDay? (d.isoChars ++ rest) = some ((d.year, d.month, d.day), rest) :=
  takeDay?_eq_some_iff.mpr ⟨_, _, _, rfl, ⟨d.length_year, d.length_month, d.length_day⟩,
    number?_padded .., number?_padded .., number?_padded ..⟩

end Date

variable {m : Moment} {d : Date} {cs rest : List Char}

theorem Moment.date_of_ofClock? {hour minute second micros : Nat}
    (h : ofClock? d hour minute second micros = some m) : m.date = d := by
  unfold ofClock? at h
  split at h <;> cases h
  rfl

/-- A text that is read as a moment begins with the day of the moment. -/
theorem takeDay?_of_leadingMoment? (h : leadingMoment? cs = some (some m)) :
    ∃ rest, takeDay? cs = some ((m.date.year, m.date.month, m.date.day), rest) := by
  obtain ⟨⟨⟨y, month, k⟩, rest⟩, hday, h⟩ := Option.bind_eq_some_iff.mp h
  obtain ⟨date, hdate, hclock⟩ := Option.bind_eq_some_iff.mp (Option.some.inj h)
  obtain ⟨rfl, rfl, rfl⟩ := Date.of?_eq_some_iff.mp hdate
  exact ⟨rest, Moment.date_of_ofClock? hclock ▸ hday⟩

/-- A day in full stands for its midnight unless a time follows. -/
theorem leadingMoment?_isoChars (h : clockAfterDay rest = (0, 0, 0)) :
    leadingMoment? (d.isoChars ++ rest) = some (some (.midnight d)) := by
  have hclock : Moment.ofClock? d 0 0 0 0 = some (.midnight d) := rfl
  simp [leadingMoment?, Date.takeDay?_isoChars, h, Date.of?_eq_some, hclock]

end NotePlot
