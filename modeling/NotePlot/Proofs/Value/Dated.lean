import NotePlot.Proofs.Calendar.Clock
import NotePlot.Value.Written

/-! Dates in texts and out of them: a text that begins with a day is read by what stands at its
beginning, and by no other rule, and what dates are written as is read as the dates. -/
namespace NotePlot

open Text

variable {ys ms ds rest cs : List Char} {s : String} {v : Value} {d : Date} {m : Moment}

theorem momentInText_of_leadingMoment? {answer : Option Moment}
    (h : leadingMoment? (trim cs) = some answer) (phrase : List Char → Outcome (Option Moment)) :
    momentInText phrase cs = .ok answer := by
  simp only [momentInText, h]

namespace Value

/-- A text that begins, after blanks, with four, two and two digits and hyphens between them is read
by these and by the time that stands right after them. It tells the moment with these numbers, if
they are possible, and no moment otherwise. The rule for phrases has no say in it. -/
theorem moment_of_numerals (hs : trim s.toList = (ys ++ '-' :: (ms ++ '-' :: ds)) ++ rest)
    (hy : IsNumeral 4 ys) (hm : IsNumeral 2 ms) (hd : IsNumeral 2 ds) : ∃ hour minute second,
      (∀ h m k, ClockAfter rest h m k ↔ h = hour ∧ m = minute ∧ k = second) ∧
      (Moment.IsPossible (numberOf ys) (numberOf ms) (numberOf ds) hour minute second →
        ∃ m : Moment, m.Shows (numberOf ys) (numberOf ms) (numberOf ds) hour minute second ∧
          ∀ phrases, (text s).moment phrases = .ok (some m)) ∧
      (¬ Moment.IsPossible (numberOf ys) (numberOf ms) (numberOf ds) hour minute second →
        ∀ phrases, (text s).moment phrases = .ok none) ∧
      ∀ phrases phrase, momentInText phrase s.toList = (text s).moment phrases := by
  obtain ⟨hour, minute, second, hclock⟩ := exists_clockAfter rest
  have hday : takeDay? (trim s.toList) = some ((numberOf ys, numberOf ms, numberOf ds), rest) :=
    takeDay?_eq_some_iff.mpr ⟨ys, ms, ds, hs, ⟨hy.1, hm.1, hd.1⟩,
      number?_of_isNumeral hy (by decide), number?_of_isNumeral hm (by decide),
      number?_of_isNumeral hd (by decide)⟩
  have hyear : numberOf ys < 10000 := by
    have hlt := numberOf_lt ys
    rwa [hy.1] at hlt
  have hby := momentInText_of_leadingMoment? (leadingMoment?_eq hday hclock)
  refine ⟨hour, minute, second, fun h m k => ?_, fun hp => ?_, fun hp => ?_, fun phrases phrase =>
    (hby phrase).trans (hby phrases.read).symm⟩
  · rw [← clockAfterDay_eq_iff, clockAfterDay_eq_iff.mpr hclock, Prod.mk.injEq, Prod.mk.injEq,
      eq_comm, @eq_comm _ minute, @eq_comm _ second]
  · obtain ⟨m, hm⟩ := (Moment.exists_ofNumbers?_iff hyear).mpr hp
    rw [hm] at hby
    exact ⟨m, Moment.ofNumbers?_eq_some_iff.mp hm, fun phrases => hby phrases.read⟩
  · rw [← Moment.exists_ofNumbers?_iff hyear, ← Option.isSome_iff_exists,
      Option.not_isSome_iff_eq_none] at hp
    rw [hp] at hby
    exact fun phrases => hby phrases.read

/-- Digits of another script, a time to the second, and what is left out after it; then a day that
its year lacks. -/
theorem moment_of_numerals_leapDay :
    trim " ２０２４-02-29T23:59:07.5+02:00\n".toList =
      ("２０２４".toList ++ '-' :: ("02".toList ++ '-' :: "29".toList)) ++
        "T23:59:07.5+02:00".toList ∧
    trim "2023-02-29 10:00".toList =
      ("2023".toList ++ '-' :: ("02".toList ++ '-' :: "29".toList)) ++ " 10:00".toList ∧
    (IsNumeral 4 "２０２４".toList ∧ IsNumeral 4 "2023".toList ∧ IsNumeral 2 "02".toList ∧
      IsNumeral 2 "29".toList) ∧
    (∃ m : Moment, m.Shows 2024 2 29 23 59 7 ∧
      ∀ phrases, (text " ２０２４-02-29T23:59:07.5+02:00\n").moment phrases = .ok (some m)) ∧
    ∀ phrases, (text "2023-02-29 10:00").moment phrases = .ok none := by
  have hleap : trim " ２０２４-02-29T23:59:07.5+02:00\n".toList =
      ("２０２４".toList ++ '-' :: ("02".toList ++ '-' :: "29".toList)) ++
        "T23:59:07.5+02:00".toList := by decide
  have hother : trim "2023-02-29 10:00".toList =
      ("2023".toList ++ '-' :: ("02".toList ++ '-' :: "29".toList)) ++ " 10:00".toList := by decide
  have hdigits : IsNumeral 4 "２０２４".toList ∧ IsNumeral 4 "2023".toList ∧
      IsNumeral 2 "02".toList ∧ IsNumeral 2 "29".toList := by decide
  obtain ⟨hy, hy', hm, hd⟩ := hdigits
  refine ⟨hleap, hother, ⟨hy, hy', hm, hd⟩, ?_, ?_⟩
  · obtain ⟨hour, minute, second, hclock, hpossible, -⟩ := moment_of_numerals hleap hy hm hd
    have hshown : ClockAfter "T23:59:07.5+02:00".toList 23 59 7 :=
      clockAfterDay_eq_iff.mp (by decide)
    obtain ⟨rfl, rfl, rfl⟩ := (hclock _ _ _).mp hshown
    exact hpossible (by decide)
  · obtain ⟨hour, minute, second, -, -, himpossible, -⟩ := moment_of_numerals hother hy' hm hd
    refine himpossible ?_
    rintro ⟨-, -, ⟨-, hday⟩, -⟩
    exact absurd hday (by decide)

end Value

/-- A written moment is read back to the second, whatever its time zone. -/
theorem leadingMoment?_moment {c : Char} (hc : c = ' ' ∨ c = 'T') (m : Moment)
    (offset : Option Offset) :
    leadingMoment? (m.isoChars c offset) = some (some m.wholeSecond) := by
  rw [Moment.isoChars, leadingMoment?_eq (m.date.takeDay?_isoChars _) (m.clockAfter_written hc _),
    Moment.ofNumbers?_eq_some_iff.mpr m.shows_wholeSecond]

namespace Value

/-- A date, or a moment in some time zone or in none. -/
inductive IsTime : Value → Prop
  | date (d : Date) : IsTime (.scalar (.date d))
  | moment (m : Moment) (offset : Option Offset) : IsTime (.scalar (.moment m offset))

theorem moment_of_isTime (h : v.IsTime) (phrases : Phrases) : v.moment phrases = .ok v.dated? := by
  cases h <;> rfl

/-- The text of a date begins with the day of the date, and is read as its moment to the second. -/
theorem exists_plain_of_isTime (h : v.IsTime) : ∃ s m, v.plain = .ok s ∧ v.dated? = some m ∧
    leadingMoment? s.toList = some (some m.wholeSecond) := by
  cases h with
  | date d =>
    refine ⟨d.iso, .midnight d, rfl, rfl, ?_⟩
    have hread : leadingMoment? (d.isoChars ++ []) = some (some (.midnight d)) :=
      leadingMoment?_isoChars rfl
    rw [List.append_nil] at hread
    rw [Date.iso, String.toList_ofList]
    exact hread
  | moment m offset =>
    refine ⟨m.iso offset, m, rfl, rfl, ?_⟩
    rw [Moment.iso, String.toList_ofList]
    exact leadingMoment?_moment (.inr rfl) m offset

end Value
end NotePlot
