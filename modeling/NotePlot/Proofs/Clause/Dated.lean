import NotePlot.Proofs.Clause.Order
import NotePlot.Proofs.Value.Dated
import NotePlot.Proofs.Value.Kind

/-! Dates under conditions: a date and the text that it is written as pass the same ones, and what
counts as a date by its kind passes one, unless blanks stand before it. -/
namespace NotePlot

open Text

variable {c : Condition} {props others : Properties} {v : Value} {d : Date} {m : Moment} {f s : String}

namespace Condition

theorem holds_of_day? (hk : c.kind = .date) (h : (props.get c.field).day? = some d) :
    c.holds props = c.holdsOfDate (props.get c.field) := by
  have hn := Value.isNull_of_isComparable .date ⟨d, Value.day?_eq_some_iff.mp h⟩
  simp only [holds, hn, Bool.false_eq_true, if_false, hk]

/-- A condition on days asks for nothing but the day that a value tells. -/
theorem holds_congr_of_day? (hk : c.kind = .date)
    (h : (props.get c.field).day? = (others.get c.field).day?) :
    c.holds props = c.holds others := by
  cases hd : (props.get c.field).day? with
  | none =>
    have hnone := h.symm.trans hd
    rw [holds_eq_false_of_day? hk hd, holds_eq_false_of_day? hk hnone]
  | some d =>
    have hsome := h.symm.trans hd
    rw [holds_of_day? hk hd, holds_of_day? hk hsome, holdsOfDate, holdsOfDate, h]

end Condition

namespace Value

/-- A date or moment has a text, which is read as the same day and time, to the second. A condition
on days therefore says of a note with the date what it says of one with the text, be it an answer or
a failure. -/
theorem moment_plain_of_isTime (h : v.IsTime) : ∃ s m, v.plain = .ok s ∧
    (∀ phrases, v.moment phrases = .ok (some m)) ∧
    (∀ phrases, (text s).moment phrases = .ok (some m.wholeSecond)) ∧
    m.wholeSecond.Shows m.date.year m.date.month m.date.day m.hour m.minute m.second ∧
    ∀ (c : Condition) (props others : Properties), c.kind = .date → props.get c.field = v →
      others.get c.field = text s → c.holds props = c.holds others := by
  obtain ⟨s, m, hplain, hdated, hread⟩ := exists_plain_of_isTime h
  have hbegins : beginsWithDay s.toList :=
    leadingMoment?_isSome_iff.mp (Option.isSome_iff_exists.mpr ⟨_, hread⟩)
  have htext (phrases : Phrases) : (text s).moment phrases = .ok (some m.wholeSecond) := by
    have hin := momentInText_of_beginsWithDay hbegins phrases.read
    rw [hread] at hin
    exact hin
  have hmoment (phrases : Phrases) : v.moment phrases = .ok (some m) := by
    rw [moment_of_isTime h, hdated]
  refine ⟨s, m, hplain, hmoment, htext, m.shows_wholeSecond, ?_⟩
  intro c props others hk hv hs
  have hday : v.day? = some m.date := by rw [day?, hdated, Option.map_some]
  have hsday : (text s).day? = some m.date :=
    day?_text_eq_some_iff.mpr ⟨hbegins, _, htext, rfl⟩
  refine Condition.holds_congr_of_day? hk ?_
  rw [hv, hs, hday, hsday]

/-- A moment of an early year, with microseconds and a time zone, under a comparison with its day.
-/
theorem moment_plain_of_isTime_earlyYear :
    (scalar (.moment { date := { year := 7, month := 3, day := 4 }, micros := 86398000120 }
      (some ⟨-19800000000⟩))).IsTime ∧
    (∀ phrases, (text "0007-03-04T23:59:58.000120-05:30").moment phrases =
      .ok (some { date := { year := 7, month := 3, day := 4 }, micros := 86398000000 })) ∧
    (Condition.comparing "due" .eq (.date (.midnight { year := 7, month := 3, day := 4 }))).holds
        [("due", .scalar (.moment
          { date := { year := 7, month := 3, day := 4 }, micros := 86398000120 }
          (some ⟨-19800000000⟩)))] =
      (Condition.comparing "due" .eq (.date (.midnight { year := 7, month := 3, day := 4 }))).holds
        [("due", .text "0007-03-04T23:59:58.000120-05:30")] := by
  have htime : (scalar (.moment
      { date := { year := 7, month := 3, day := 4 }, micros := 86398000120 }
      (some ⟨-19800000000⟩))).IsTime := .moment _ _
  have hwritten : (scalar (.moment
      { date := { year := 7, month := 3, day := 4 }, micros := 86398000120 }
      (some ⟨-19800000000⟩))).plain = .ok "0007-03-04T23:59:58.000120-05:30" :=
    Outcome.toOption_eq_some_iff.mp (by decide +kernel)
  obtain ⟨s, m, hplain, hmoment, htext, -, hall⟩ := moment_plain_of_isTime htime
  obtain rfl := Except.ok.inj (hplain.symm.trans hwritten)
  obtain rfl := Option.some.inj (Except.ok.inj (hmoment (.ofYear 2024)))
  exact ⟨htime, htext, hall _ _ _ rfl rfl rfl⟩

/-- A text that begins with a blank. -/
def BeginsBlank (v : Value) : Prop := ∃ s, v = .text s ∧ ∃ c ∈ s.toList.head?, isBlank c

theorem dated?_eq_none_of_beginsBlank (h : v.BeginsBlank) : v.dated? = none := by
  obtain ⟨s, rfl, c, hc, hblank⟩ := h
  have hbegins : ¬ beginsWithDay s.toList := by
    intro hday
    exact trimStart_eq_self_iff.mp (trimStart_of_beginsWithDay hday) c hc hblank
  have hday := day?_text_eq_none hbegins
  exact Option.map_eq_none_iff.mp hday

/-- Without blanks before it, what a date or a text is by its kind is what it is for conditions. -/
theorem kinded_eq_date_iff (hv : v.IsTime ∨ ∃ s, v = .text s) (hb : ¬ v.BeginsBlank) :
    v.kinded = .ok (.date m) ↔ v.dated? = some m := by
  rcases hv with hv | ⟨s, rfl⟩
  · cases hv with
    | date d => simp [kinded, opened, dated?]
    | moment m' offset => simp [kinded, opened, dated?]
  · have hflush : ∀ c ∈ s.toList.head?, ¬ isBlank c := fun c hc hblank => hb ⟨s, rfl, c, hc, hblank⟩
    have hread : leadingMoment? (trim s.toList) = leadingMoment? s.toList := by
      rw [trim, trimStart_eq_self_iff.mpr hflush, leadingMoment?_trimEnd]
    rw [kinded_text, kindOfText_eq_date_iff, hread]
    rfl

/-- No day of the calendar is before the first one. -/
theorem holds_since_first (hm : m.date.number = 0) :
    (Condition.comparing f .ge (.date m)).holds props = .ok (props.get f).dated?.isSome := by
  cases hd : (props.get f).dated? with
  | none =>
    have hday : (props.get f).day? = none := by rw [day?, hd, Option.map_none]
    exact Condition.holds_eq_false_of_day? rfl hday
  | some m' =>
    have hday : (props.get f).day? = some m'.date := by rw [day?, hd, Option.map_some]
    rw [Condition.holds_comparing_date (by decide) hday, hm, Operator.admits]
    have hge : compare m'.date.number 0 ≠ .lt := by
      rw [Ne, Nat.compare_eq_lt]
      omega
    simp [hge]

/-- Dates, moments and texts without a blank before them are dates by their kind just if they can
meet a condition on days: the one that asks for the first day of the calendar or a later one. A text
with a blank before it meets no such condition. -/
theorem kinded_date_iff_holds (hv : v.IsTime ∨ ∃ s, v = .text s) (hf : props.get f = v) :
    ∃ b, (Condition.comparing f .ge
        (.date (.midnight { year := 1, month := 1, day := 1 }))).holds props = .ok b ∧
      (¬ v.BeginsBlank → ((∃ m, v.kinded = .ok (.date m)) ↔ b = true)) ∧
      (v.BeginsBlank → b = false) := by
  refine ⟨_, holds_since_first (by decide), fun hb => ?_, fun hb => ?_⟩
  · rw [hf, Option.isSome_iff_exists]
    exact exists_congr fun m => kinded_eq_date_iff hv hb
  · rw [hf, dated?_eq_none_of_beginsBlank hb]
    rfl

/-- The first day itself, with blanks and more after it. -/
theorem kinded_date_iff_holds_firstDay :
    ((text "0001-01-01 noon\n").IsTime ∨ ∃ s, text "0001-01-01 noon\n" = .text s) ∧
    ¬ (text "0001-01-01 noon\n").BeginsBlank ∧
    (∃ m, (text "0001-01-01 noon\n").kinded = .ok (.date m)) ∧
    (Condition.comparing "due" .ge
      (.date (.midnight { year := 1, month := 1, day := 1 }))).holds
        [("due", .text "0001-01-01 noon\n")] = .ok true := by
  have hv : (text "0001-01-01 noon\n").IsTime ∨ ∃ s, text "0001-01-01 noon\n" = .text s :=
    .inr ⟨_, rfl⟩
  have hf : Properties.get [("due", .text "0001-01-01 noon\n")] "due" =
    .text "0001-01-01 noon\n" := rfl
  have hb : ¬ (text "0001-01-01 noon\n").BeginsBlank := by
    rintro ⟨s, heq, c, hc, hblank⟩
    cases heq
    cases hc
    exact absurd hblank (by decide)
  have hkind : ∃ m, (text "0001-01-01 noon\n").kinded = .ok (.date m) := by
    refine ⟨.midnight { year := 1, month := 1, day := 1 }, ?_⟩
    rw [kinded_text, kindOfText_eq_date_iff]
    decide
  obtain ⟨b, hholds, hflush, -⟩ := kinded_date_iff_holds hv hf
  exact ⟨hv, hb, hkind, (hflush hb).mp hkind ▸ hholds⟩

/-- A date for its kind, but for no condition. -/
theorem kinded_date_afterBlank :
    (text " 2024-01-10").kinded =
      .ok (.date (.midnight { year := 2024, month := 1, day := 10 })) ∧
    (Condition.comparing "due" .ge
      (.date (.midnight { year := 1, month := 1, day := 1 }))).holds
        [("due", .text " 2024-01-10")] = .ok false := by
  constructor
  · rw [kinded_text, kindOfText_eq_date_iff]
    decide
  · rw [holds_since_first (by decide)]
    decide

end Value
end NotePlot
