import NotePlot.Clause.Operand
import NotePlot.Proofs.Calendar.Relative
/-! Operands as they are read: a text in quotes, or else what the text stands for on the day of the
reference time. Whether the field promises dates makes a difference to zero alone. A step of months
leads to a moment of the calendar whenever its month lies there. -/
namespace NotePlot

open Text Outcome

variable {now : Reference} {day : Date} {cs : List Char} {dateField : Bool} {token : String}
  {a b n : Int}

/-- Whatever is a relative date looks like one. -/
theorem Relative.ofLower_of_not_looksRelative (h : Operand.looksRelative cs = false) :
    ofLower cs = .ok none := by
  simp only [Operand.looksRelative, Operand.isDayName, Bool.or_eq_false_iff,
    decide_eq_false_iff_not] at h
  obtain ⟨⟨⟨htoday, hyesterday⟩, hminus⟩, hplus⟩ := h
  rw [ofLower, if_neg htoday, if_neg hyesterday]
  refine Decidable.byContradiction fun hn => ?_
  obtain ⟨sign, ds, steps, hs⟩ := exists_spells hn
  obtain ⟨unit, -, rfl⟩ := hs.text
  obtain rfl | rfl := hs.isSign
  · exact hplus rfl
  · exact hminus rfl

/-- A moment as the reference time, with phrases read as in its year. -/
def Reference.ofMoment (m : Moment) : Reference := ⟨.scalar (.moment m none), .ofYear m.date.year⟩

namespace Operand

/-- Reads a text without quotes and blanks on a day. Whether the field promises dates makes no
difference to any text but zero. -/
def readOn (day : Date) (cs : List Char) : Outcome Operand := do
  match ← Relative.dayOf? day (lowerChars cs) with
  | some d => return .date (.midnight d)
  | none => ofPlain cs

theorem relative?_eq (hday : dayOf now = .ok day) (cs : List Char) : relative? now cs =
    (Relative.dayOf? day (lowerChars (trim cs))).map (Option.map Moment.midnight) := by
  unfold relative? Relative.dayOf? Relative.read
  rw [hday, ok_bind]
  cases Relative.ofLower (lowerChars (trim cs)) with
  | error failure => rfl
  | ok r =>
    cases r with
    | none => rfl
    | some r => cases hr : r.resolve day <;> simp [hr] <;> rfl

theorem read_of_unquoted? {inner : List Char} (h : unquoted? (trim token.toList) = some inner) :
    read now dateField token = .ok (.text (String.ofList inner)) := by
  unfold read
  simp only [h]
  rfl

theorem read_zero (hday : dayOf now = .ok day) (h : trim token.toList = ['0']) :
    read now true token = .ok (.date (.midnight day)) := by
  unfold read
  simp only [h, hday]
  rfl

theorem read_bare (hday : dayOf now = .ok day) (h : unquoted? (trim token.toList) = none)
    (hzero : ¬ (dateField ∧ trim token.toList = ['0'])) :
    read now dateField token = readOn day (trim token.toList) := by
  have hrelative := relative?_eq hday (trim token.toList)
  rw [trim_trim] at hrelative
  set cs := trim token.toList with hcs
  unfold read readOn
  simp only [← hcs, h]
  by_cases htoday : dateField = true ∧ lowerChars cs = "today".toList
  · rw [if_pos ⟨htoday.1, .inr htoday.2⟩, hday, htoday.2]
    rfl
  · have hother : ¬ (dateField = true ∧ (cs = ['0'] ∨ lowerChars cs = "today".toList)) := by
      rintro ⟨hd, hz | ht⟩
      · exact hzero ⟨hd, hz⟩
      · exact htoday ⟨hd, ht⟩
    rw [if_neg hother]
    by_cases hl : (dateField || looksRelative (lowerChars cs)) = true
    · rw [if_pos hl, hrelative]
      cases Relative.dayOf? day (lowerChars cs) with
      | error failure => rfl
      | ok r => cases r <;> rfl
    · rw [if_neg hl]
      have hplain := (Bool.or_eq_false_iff.mp (Bool.eq_false_iff.mpr hl)).2
      rw [Relative.dayOf?, Relative.ofLower_of_not_looksRelative hplain]
      rfl

theorem readOn_zero_ne (day : Date) (m : Moment) : readOn day ['0'] ≠ .ok (.date m) := by
  have hday : Relative.dayOf? day (lowerChars ['0']) = .ok none := rfl
  have hmoment : (leadingMoment? ['0']).join = none := rfl
  intro h
  rw [readOn, hday, ok_bind] at h
  unfold ofPlain at h
  dsimp only at h
  split at h
  next hm => cases hmoment.symm.trans hm
  next =>
    obtain ⟨n?, -, h⟩ := bind_eq_ok.mp h
    cases n? <;> cases h

/-- A field that promises dates reads zero as a day, and other fields as a number; every other text
is read alike in all fields, or fails alike. -/
theorem read_dateField_iff (hday : dayOf now = .ok day) (token : String) :
    read now true token = read now false token ↔ trim token.toList ≠ ['0'] := by
  constructor
  · intro h hzero
    have hbare : unquoted? (trim token.toList) = none := by rw [hzero]; rfl
    rw [read_zero hday hzero, read_bare hday hbare (by simp), hzero] at h
    exact readOn_zero_ne day (.midnight day) h.symm
  · intro hzero
    cases hq : unquoted? (trim token.toList) with
    | some inner => rw [read_of_unquoted? hq, read_of_unquoted? hq]
    | none => rw [read_bare hday hq (by simp [hzero]), read_bare hday hq (by simp)]

/-- A step forward, with a capital letter for its unit and blanks around it. -/
theorem read_dateField_iff_nextWeek :
    dayOf (.ofMoment ⟨{ year := 2024, month := 1, day := 31 }, 37800000000, by decide⟩) =
      .ok { year := 2024, month := 1, day := 31 } ∧
    trim " +1W ".toList ≠ ['0'] ∧
    read (.ofMoment ⟨{ year := 2024, month := 1, day := 31 }, 37800000000, by decide⟩)
        true " +1W " =
      read (.ofMoment ⟨{ year := 2024, month := 1, day := 31 }, 37800000000, by decide⟩)
        false " +1W " := by
  have hday : dayOf (.ofMoment ⟨{ year := 2024, month := 1, day := 31 }, 37800000000,
    by decide⟩) = .ok { year := 2024, month := 1, day := 31 } := rfl
  have htoken : trim " +1W ".toList ≠ ['0'] := by decide
  exact ⟨hday, htoken, (read_dateField_iff hday " +1W ").mpr htoken⟩

open Relative

theorem relative?_of_isMonthToken (hday : dayOf now = .ok day) (h : IsMonthToken n cs) :
    relative? now cs = (day.stepMonths n).map fun e => some (.midnight e) := by
  rw [relative?_eq hday, dayOf?_of_isMonthToken h]
  cases day.stepMonths n <;> rfl

theorem relative?_eq_some_iff (hday : dayOf now = .ok day) (h : IsMonthToken n cs)
    {reached : Moment} : relative? now cs = .ok (some reached) ↔
      ∃ e, day.stepMonths n = .ok e ∧ reached = .midnight e := by
  rw [relative?_of_isMonthToken hday h]
  cases day.stepMonths n with
  | error failure => simp [Except.map]
  | ok e => simp [Except.map, eq_comm]

theorem lt_of_relative? {reached other : Moment} {s t : List Char} (hday : dayOf now = .ok day)
    (hab : a < b) (hs : IsMonthToken a s) (ht : IsMonthToken b t)
    (hreached : relative? now s = .ok (some reached))
    (hother : relative? now t = .ok (some other)) :
    reached < other := by
  obtain ⟨p, hp, rfl⟩ := (relative?_eq_some_iff hday hs).mp hreached
  obtain ⟨q, hq, rfl⟩ := (relative?_eq_some_iff hday ht).mp hother
  have hlt := Date.stepMonths_strictMono hab hp hq
  have hpos : 0 < microsPerDay := by decide
  exact Nat.add_lt_add_right (Nat.mul_lt_mul_of_pos_right hlt hpos) 0

/-- A step of months leads to midnight of the same day of the month that it reaches or, if that
month lacks the day, of the day of the next month that makes up for it, as long as the month that it
reaches lies in the calendar. A further step leads to a later day. From a day that all months have,
two steps are one step of their sum, and a step is undone by the step back. -/
theorem relative?_months (hday : dayOf now = .ok day) :
    (∀ n y m, day.IsMonthsAfter n y m → firstYear ≤ y ∧ y ≤ lastYear →
      IsMonthToken n (monthToken n) ∧ ∀ token, IsMonthToken n token →
        ∃ e, relative? now token = .ok (some (.midnight e)) ∧ day.LandsOn y m e) ∧
    (∀ a b s t reached other, a < b → IsMonthToken a s → IsMonthToken b t →
      relative? now s = .ok (some reached) → relative? now t = .ok (some other) →
        reached < other) ∧
    (day.day ≤ 28 → ∀ a s reached later, IsMonthToken a s →
      relative? now s = .ok (some reached) → dayOf later = .ok reached.date →
        (∀ b t sum, IsMonthToken b t → IsMonthToken (a + b) sum →
          relative? later t = relative? now sum) ∧
        ∀ back, IsMonthToken (-a) back → relative? later back = .ok (some (.midnight day))) := by
  refine ⟨fun n y m hm hy => ⟨?_, fun token ht => ?_⟩, ?_, ?_⟩
  · have hcount := hm.count
    have hmonth := hm.month
    have hdmonth := day.month_mem
    have hdyear : 1 ≤ day.year ∧ day.year ≤ 9999 := day.year_mem
    have hyear : 1 ≤ y ∧ y ≤ 9999 := hy
    exact isMonthToken_monthToken (by omega)
  · obtain ⟨e, he, hlands⟩ := Date.exists_landsOn hm hy
    exact ⟨e, (relative?_eq_some_iff hday ht).mpr ⟨e, he, rfl⟩, hlands⟩
  · intro a b s t reached other hab hs ht hreached hother
    exact lt_of_relative? hday hab hs ht hreached hother
  · intro hlow a s reached later hs hreached hlater
    obtain ⟨p, hp, rfl⟩ := (relative?_eq_some_iff hday hs).mp hreached
    constructor
    · intro b t sum ht hsum
      rw [relative?_of_isMonthToken hlater ht, relative?_of_isMonthToken hday hsum]
      exact congrArg _ (Date.stepMonths_stepMonths hlow hp)
    · intro back hback
      refine (relative?_eq_some_iff hlater hback).mpr ⟨day, ?_, rfl⟩
      calc p.stepMonths (-a) = day.stepMonths (a + -a) := Date.stepMonths_stepMonths hlow hp
        _ = day.stepMonths 0 := congrArg _ (Int.add_right_neg a)
        _ = .ok day := day.stepMonths_zero

/-- The last day of January, a month on, in a leap year. -/
theorem relative?_months_leap :
    dayOf ⟨.scalar (.date { year := 2024, month := 1, day := 31 }), .ofYear 2024⟩ =
      .ok { year := 2024, month := 1, day := 31 } ∧
    Date.IsMonthsAfter { year := 2024, month := 1, day := 31 } 1 2024 2 ∧
    ∃ e, relative? ⟨.scalar (.date { year := 2024, month := 1, day := 31 }), .ofYear 2024⟩
        (monthToken 1) = .ok (some (.midnight e)) ∧
      e.year = 2024 ∧ e.month = 3 ∧ e.day = 2 := by
  have hday : dayOf ⟨.scalar (.date { year := 2024, month := 1, day := 31 }), .ofYear 2024⟩ =
    .ok { year := 2024, month := 1, day := 31 } := rfl
  have hafter : Date.IsMonthsAfter { year := 2024, month := 1, day := 31 } 1 2024 2 :=
    ⟨by decide, by decide⟩
  obtain ⟨htoken, hreached⟩ := (relative?_months hday).1 1 2024 2 hafter (by decide)
  obtain ⟨e, he, hlands⟩ := hreached (monthToken 1) htoken
  exact ⟨hday, hafter, e, he, hlands.beyond (by decide)⟩

end Operand
end NotePlot
