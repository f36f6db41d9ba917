import NotePlot.Proofs.Calendar.Label
import Mathlib.Order.Lattice

/-! Times of day: which of them a clock shows, and how they stand after a day in a text. Moments are
in a linear order. -/
namespace NotePlot

open Text

namespace Moment

variable {m : Moment} {d : Date} {hour minute second micros : Nat}

theorem hour_lt (m : Moment) : m.hour < 24 := by
  have h : m.micros < 86400000000 := m.micros_lt
  unfold hour microsPerSecond
  omega

theorem minute_lt (m : Moment) : m.minute < 60 := Nat.mod_lt _ (by decide)

theorem second_lt (m : Moment) : m.second < 60 := Nat.mod_lt _ (by decide)

theorem fraction_lt (m : Moment) : m.fraction < microsPerSecond := Nat.mod_lt _ (by decide)

/-- Hour, minute, second and the part of a second make up the time of day. -/
theorem micros_eq (m : Moment) : m.micros =
    ((m.hour * 60 + m.minute) * 60 + m.second) * microsPerSecond + m.fraction := by
  unfold hour minute second fraction microsPerSecond
  omega

/-- A clock shows a time by its hour, minute and second, if they are in its range. -/
theorem ofClock?_eq_some_iff : ofClock? d hour minute second micros = some m ↔
    m.date = d ∧ m.hour = hour ∧ m.minute = minute ∧ m.second = second ∧ m.fraction = micros := by
  constructor
  · intro h
    unfold ofClock? at h
    split at h
    next hrange =>
      cases h
      simp only [Moment.hour, Moment.minute, Moment.second, Moment.fraction, microsPerSecond]
        at hrange ⊢
      refine ⟨trivial, ?_, ?_, ?_, ?_⟩ <;> omega
    next => cases h
  · rintro ⟨rfl, rfl, rfl, rfl, rfl⟩
    rw [ofClock?, dif_pos ⟨m.hour_lt, m.minute_lt, m.second_lt, m.fraction_lt⟩, Option.some.injEq]
    obtain ⟨date, micros, hmicros⟩ := m
    congr
    exact (micros_eq ⟨date, micros, hmicros⟩).symm

/-- Numbers that are a day of the calendar and a time of day to the second. -/
def IsPossible (year month day hour minute second : Nat) : Prop :=
  1 ≤ year ∧ (1 ≤ month ∧ month ≤ 12) ∧ (1 ≤ day ∧ day ≤ daysInMonth year month) ∧
    hour ≤ 23 ∧ minute ≤ 59 ∧ second ≤ 59

instance (year month day hour minute second : Nat) :
    Decidable (IsPossible year month day hour minute second) :=
  inferInstanceAs (Decidable (_ ∧ _))

/-- A moment has these numbers for its day and its time of day, with no part of a second. -/
def Shows (m : Moment) (year month day hour minute second : Nat) : Prop :=
  (m.date.year = year ∧ m.date.month = month ∧ m.date.day = day) ∧
    (m.hour = hour ∧ m.minute = minute ∧ m.second = second) ∧ m.fraction = 0

/-- Without its part of a second a moment shows the same day and time. -/
theorem shows_wholeSecond (m : Moment) :
    m.wholeSecond.Shows m.date.year m.date.month m.date.day m.hour m.minute m.second := by
  refine ⟨⟨rfl, rfl, rfl⟩, ?_⟩
  unfold wholeSecond hour minute second fraction microsPerSecond
  dsimp only
  omega

/-- The moment with these numbers, if there is one. -/
def ofNumbers? (year month day hour minute second : Nat) : Option Moment :=
  (Date.of? year month day).bind fun date => ofClock? date hour minute second 0

variable {year month day : Nat}

theorem ofNumbers?_eq_some_iff : ofNumbers? year month day hour minute second = some m ↔
    m.Shows year month day hour minute second := by
  simp only [ofNumbers?, Option.bind_eq_some_iff, Date.of?_eq_some_iff, ofClock?_eq_some_iff, Shows]
  constructor
  · rintro ⟨_, hdate, rfl, hhour, hminute, hsecond, hfraction⟩
    exact ⟨hdate, ⟨hhour, hminute, hsecond⟩, hfraction⟩
  · rintro ⟨hdate, ⟨hhour, hminute, hsecond⟩, hfraction⟩
    exact ⟨_, hdate, rfl, hhour, hminute, hsecond, hfraction⟩

/-- Numbers have their moment just when they are possible, for years of four digits. -/
theorem exists_ofNumbers?_iff (hy : year < 10000) :
    (∃ m, ofNumbers? year month day hour minute second = some m) ↔
      IsPossible year month day hour minute second := by
  constructor
  · rintro ⟨m, hm⟩
    obtain ⟨⟨rfl, rfl, rfl⟩, ⟨rfl, rfl, rfl⟩, -⟩ := ofNumbers?_eq_some_iff.mp hm
    exact ⟨m.date.year_mem.1, m.date.month_mem, m.date.day_mem, Nat.le_of_lt_succ m.hour_lt,
      Nat.le_of_lt_succ m.minute_lt, Nat.le_of_lt_succ m.second_lt⟩
  · rintro ⟨hyear, hmonth, hday, hhour, hminute, hsecond⟩
    have hdate : Date.of? year month day =
        some ⟨year, month, day, ⟨hyear, Nat.le_of_lt_succ hy⟩, hmonth, hday⟩ :=
      Date.of?_eq_some_iff.mpr ⟨rfl, rfl, rfl⟩
    have hclock : hour < 24 ∧ minute < 60 ∧ second < 60 ∧ 0 < microsPerSecond :=
      ⟨Nat.lt_succ_of_le hhour, Nat.lt_succ_of_le hminute, Nat.lt_succ_of_le hsecond, by decide⟩
    exact ⟨_, by rw [ofNumbers?, hdate, Option.bind_some, ofClock?, dif_pos hclock]⟩

end Moment

variable {cs hs ms ss rest : List Char} {hour minute second : Nat}

/-- A text begins with a space or a T, and then two digits, a colon and two digits. -/
def BeginsWithMinutes (cs hs ms rest : List Char) : Prop :=
  (IsNumeral 2 hs ∧ IsNumeral 2 ms) ∧
    ∃ c, (c = ' ' ∨ c = 'T') ∧ cs = c :: (hs ++ ':' :: (ms ++ rest))

/-- A text begins with a colon and two digits. -/
def BeginsWithSeconds (cs ss : List Char) : Prop :=
  IsNumeral 2 ss ∧ ∃ rest, cs = ':' :: (ss ++ rest)

/-- The time that a text shows right after a day: hours and minutes together, and seconds only after
them. What it does not show is zero. -/
inductive ClockAfter (cs : List Char) : Nat → Nat → Nat → Prop
  | seconds {hs ms rest ss : List Char} (hm : BeginsWithMinutes cs hs ms rest)
      (h : BeginsWithSeconds rest ss) : ClockAfter cs (numberOf hs) (numberOf ms) (numberOf ss)
  | minutes {hs ms rest : List Char} (hm : BeginsWithMinutes cs hs ms rest)
      (h : ∀ ss, ¬ BeginsWithSeconds rest ss) : ClockAfter cs (numberOf hs) (numberOf ms) 0
  | midnight (h : ∀ hs ms rest, ¬ BeginsWithMinutes cs hs ms rest) : ClockAfter cs 0 0 0

theorem takeNumber?_of_isNumeral {width : Nat} (h : IsNumeral width hs) (hw : 0 < width)
    (rest : List Char) : takeNumber? width (hs ++ rest) = some (numberOf hs, rest) :=
  takeNumber?_eq_some_iff.mpr ⟨hs, rfl, h.1, number?_of_isNumeral h hw⟩

/-- The seconds at the beginning of a text, or zero. -/
def secondsIn (cs : List Char) : Nat :=
  (((takeChar? ':' cs).bind (takeNumber? 2)).map Prod.fst).getD 0

theorem secondsIn_of_beginsWithSeconds (h : BeginsWithSeconds cs ss) :
    secondsIn cs = numberOf ss := by
  obtain ⟨hss, rest, rfl⟩ := h
  have htake := takeNumber?_of_isNumeral hss (by decide) rest
  simp [secondsIn, takeChar?, htake]

theorem secondsIn_of_not (h : ∀ ss, ¬ BeginsWithSeconds cs ss) : secondsIn cs = 0 := by
  cases hread : (takeChar? ':' cs).bind (takeNumber? 2) with
  | none => rw [secondsIn, hread]; rfl
  | some found =>
    obtain ⟨after, hcolon, hnumber⟩ := Option.bind_eq_some_iff.mp hread
    obtain ⟨k, rest⟩ := found
    obtain ⟨ss, rfl, hlength, hk⟩ := takeNumber?_eq_some_iff.mp hnumber
    obtain rfl := takeChar?_eq_some_iff.mp hcolon
    exact (h ss ⟨(isNumeral_of_number? hk hlength).1, rest, rfl⟩).elim

theorem clockAfterDay_of_beginsWithMinutes (h : BeginsWithMinutes cs hs ms rest) :
    clockAfterDay cs = (numberOf hs, numberOf ms, secondsIn rest) := by
  obtain ⟨⟨hhs, hms⟩, c, hc, rfl⟩ := h
  have hhour := takeNumber?_of_isNumeral hhs (by decide) (':' :: (ms ++ rest))
  have hminute := takeNumber?_of_isNumeral hms (by decide) rest
  simp [clockAfterDay, hc, hhour, hminute, takeChar?, secondsIn]

theorem clockAfterDay_of_not (h : ∀ hs ms rest, ¬ BeginsWithMinutes cs hs ms rest) :
    clockAfterDay cs = (0, 0, 0) := by
  cases cs with
  | nil => rfl
  | cons c cs =>
    rw [clockAfterDay]
    split
    next hc =>
      dsimp only
      split
      next hour minute second hread =>
        simp only [Option.bind_eq_bind, Option.bind_eq_some_iff, Option.pure_def, Option.some.injEq,
          Prod.exists, takeNumber?_eq_some_iff, takeChar?_eq_some_iff] at hread
        obtain ⟨_, _, ⟨hs, rfl, hhs, hhour⟩, _, rfl, _, rest, ⟨ms, rfl, hms, hminute⟩, -⟩ := hread
        have hnumerals := And.intro (isNumeral_of_number? hhour hhs).1
          (isNumeral_of_number? hminute hms).1
        exact (h hs ms rest ⟨hnumerals, c, hc, rfl⟩).elim
      next => rfl
    next => rfl

theorem clockAfterDay_of_clockAfter (h : ClockAfter cs hour minute second) :
    clockAfterDay cs = (hour, minute, second) := by
  cases h with
  | seconds hm h => rw [clockAfterDay_of_beginsWithMinutes hm, secondsIn_of_beginsWithSeconds h]
  | minutes hm h => rw [clockAfterDay_of_beginsWithMinutes hm, secondsIn_of_not h]
  | midnight h => exact clockAfterDay_of_not h

/-- Every text shows a time. -/
theorem exists_clockAfter (cs : List Char) : ∃ hour minute second, ClockAfter cs hour minute second := by
  by_cases hm : ∃ hs ms rest, BeginsWithMinutes cs hs ms rest
  · obtain ⟨hs, ms, rest, hm⟩ := hm
    by_cases h : ∃ ss, BeginsWithSeconds rest ss
    · obtain ⟨ss, h⟩ := h
      exact ⟨_, _, _, .seconds hm h⟩
    · exact ⟨_, _, _, .minutes hm fun ss hss => h ⟨ss, hss⟩⟩
  · exact ⟨0, 0, 0, .midnight fun hs ms rest h => hm ⟨hs, ms, rest, h⟩⟩

/-- The time that is read after a day is the one that stands there, and there is no other. -/
theorem clockAfterDay_eq_iff :
    clockAfterDay cs = (hour, minute, second) ↔ ClockAfter cs hour minute second := by
  refine ⟨fun h => ?_, clockAfterDay_of_clockAfter⟩
  obtain ⟨hour', minute', second', hclock⟩ := exists_clockAfter cs
  cases h.symm.trans (clockAfterDay_of_clockAfter hclock)
  exact hclock

/-- Hour, minute and second of a moment, in two digits each, are the time that such a text shows. -/
theorem Moment.clockAfter_written {c : Char} (hc : c = ' ' ∨ c = 'T') (m : Moment)
    (rest : List Char) : ClockAfter (c :: (padded 2 m.hour ++ ':' :: (padded 2 m.minute ++
      ':' :: (padded 2 m.second ++ rest)))) m.hour m.minute m.second := by
  have hnumeral {n : Nat} (hn : n < 60) : IsNumeral 2 (padded 2 n) :=
    isNumeral_padded (by decide) (Nat.lt_trans hn (by decide))
  have hhour : m.hour < 60 := Nat.lt_trans m.hour_lt (by decide)
  have hseconds : BeginsWithSeconds (':' :: (padded 2 m.second ++ rest)) (padded 2 m.second) :=
    ⟨hnumeral m.second_lt, rest, rfl⟩
  have hclock := ClockAfter.seconds ⟨⟨hnumeral hhour, hnumeral m.minute_lt⟩, c, hc, rfl⟩ hseconds
  rwa [numberOf_padded, numberOf_padded, numberOf_padded] at hclock

theorem leadingMoment?_eq {y month day : Nat} (hday : takeDay? cs = some ((y, month, day), rest))
    (hclock : ClockAfter rest hour minute second) :
    leadingMoment? cs = some (Moment.ofNumbers? y month day hour minute second) := by
  have hread := clockAfterDay_eq_iff.mpr hclock
  simp [leadingMoment?, hday, hread, Moment.ofNumbers?]

namespace Moment

variable {a b : Moment}

theorem ticks_inj : a.ticks = b.ticks ↔ a = b := by
  constructor
  · intro h
    have ha : a.micros < 86400000000 := a.micros_lt
    have hb : b.micros < 86400000000 := b.micros_lt
    have hticks : a.date.number * 86400000000 + a.micros =
        b.date.number * 86400000000 + b.micros := h
    have hday : a.date = b.date := Date.number_inj.mp (by omega)
    have hmicros : a.micros = b.micros := by omega
    cases a
    cases b
    simp_all
  · rintro rfl
    rfl

/-- A shift leads to the moment that is the span away. -/
theorem shift?_eq_some_iff {span : Int} : a.shift? span = some b ↔ (b.ticks : Int) = a.ticks + span := by
  have hb : b.micros < microsPerDay := b.micros_lt
  have hticks : b.ticks = b.date.number * microsPerDay + b.micros := rfl
  unfold shift?
  dsimp only
  split
  next h => exact iff_of_false (fun hb => by cases hb) (by omega)
  next h =>
    simp only [Option.map_eq_some_iff, Date.ofNumber?_eq_some_iff]
    constructor
    · rintro ⟨d, hd, hmoment⟩
      have hdate : d = b.date := congrArg Moment.date hmoment
      have hmicros : (a.ticks + span).toNat % microsPerDay = b.micros :=
        congrArg Moment.micros hmoment
      have hdiv := Nat.div_add_mod' (a.ticks + span).toNat microsPerDay
      rw [← hd, hmicros, hdate] at hdiv
      omega
    · intro hsum
      have htoNat : (a.ticks + span).toNat = b.micros + microsPerDay * b.date.number := by
        rw [Nat.mul_comm]
        omega
      refine ⟨b.date, ?_, ?_⟩
      · rw [htoNat, Nat.add_mul_div_left _ _ (by decide), Nat.div_eq_of_lt hb, Nat.zero_add]
      · cases b
        simp only [Moment.mk.injEq, true_and]
        rw [htoNat, Nat.add_mul_mod_self_left, Nat.mod_eq_of_lt hb]

instance : LinearOrder Moment where
  le_refl _ := Nat.le_refl _
  le_trans _ _ _ hab hbc := Nat.le_trans hab hbc
  le_antisymm _ _ hab hba := ticks_inj.mp (Nat.le_antisymm hab hba)
  le_total a b := Nat.le_total a.ticks b.ticks
  lt_iff_le_not_ge _ _ := Nat.lt_iff_le_and_not_ge
  toDecidableLE := inferInstance

end Moment
end NotePlot
