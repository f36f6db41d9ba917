import NotePlot.Proofs.Calendar.Label
import NotePlot.Proofs.Plot.Order

/-! Days on the x axis: what is written there tells the day, and days that are written in full, with
four digits of ASCII for the year, meet under one key and are sorted as the calendar has them. -/
namespace NotePlot

variable {v w : Value} {d e : Date}

namespace Value

/-- A value that writes its day in ten characters of ASCII. Dates do so from the year 1000 on. -/
def DayInFull : Value → Prop
  | scalar (.text s) => ∀ c ∈ s.toList.take 10, c.toNat < 128
  | scalar (.date d) => 1000 ≤ d.year
  | scalar (.moment m _) => 1000 ≤ m.date.year
  | _ => False

/-- Two values that write one day in the same way: dates both of them, or both in full. -/
def WriteAlike (v w : Value) : Prop :=
  v.beginsLikeDate = false ∧ w.beginsLikeDate = false ∨ v.DayInFull ∧ w.DayInFull

theorem exists_text_of_beginsLikeDate (h : v.beginsLikeDate) :
    ∃ s, v = text s ∧ NotePlot.beginsLikeDate s := by
  unfold beginsLikeDate at h
  split at h
  next s => exact ⟨s, rfl, h⟩
  next _ => cases h

end Value

namespace Position

/-- The key of a day spells it. -/
theorem ofValue_of_tellsDay (h : v.TellsDay d) : ∃ key, ofValue v = .ok (ofText key true) ∧
    d.SpelledBy key.toList ∧ (v.beginsLikeDate = false → key = d.dayLabel) ∧
    (v.DayInFull → key = d.iso) := by
  obtain rfl | ⟨m, offset, rfl, rfl⟩ | ⟨hbegins, htext⟩ := h
  · exact ⟨d.dayLabel, rfl, d.spelledBy_dayLabel, fun _ => rfl, Date.dayLabel_eq_iso⟩
  · exact ⟨m.date.dayLabel, rfl, m.date.spelledBy_dayLabel, fun _ => rfl, Date.dayLabel_eq_iso⟩
  · obtain ⟨s, rfl, hs⟩ := Value.exists_text_of_beginsLikeDate hbegins
    obtain ⟨m, hm, rfl⟩ := htext
    have hlead : leadingMoment? s.toList = some (some m) := by
      have hread := (momentInText_of_beginsWithDay hs _).symm.trans (hm default)
      exact Option.join_eq_some_iff.mp (Except.ok.inj hread)
    obtain ⟨rest, hday⟩ := takeDay?_of_leadingMoment? hlead
    obtain ⟨hspelled, hlength⟩ := Date.spelledBy_take hday
    refine ⟨String.ofList (s.toList.take 10), if_pos hs, ?_, ?_, ?_⟩
    · rwa [String.toList_ofList]
    · intro hnot
      rw [hbegins] at hnot
      cases hnot
    · intro hfull
      rw [hspelled.eq_isoChars hlength hfull, Date.iso]

/-- All that tells a day has a position, whose key tells the day. Values that write their days alike
meet under one key if they tell one day. If they write them in full, rows at the earlier day are
sorted before those at the later one, or after them in the other direction. -/
theorem ofValue_days {α : Type} (hv : v.TellsDay d) (hw : w.TellsDay e) : ∃ j k : String,
    ofValue v = .ok (ofText j true) ∧ ofValue w = .ok (ofText k true) ∧
    (j = k → d = e) ∧ (v.WriteAlike w → d = e → j = k) ∧
    (v.DayInFull → w.DayInFull → d.number < e.number →
      ∀ (a b : Row α) (rows : List (Row α)), a.x = .text j → b.x = .text k → rows.Perm [a, b] →
        Row.sort .ascending rows = .ok [a, b] ∧ Row.sort .descending rows = .ok [b, a]) := by
  obtain ⟨j, hj, hjd, hjlabel, hjfull⟩ := ofValue_of_tellsDay hv
  obtain ⟨k, hk, hke, hklabel, hkfull⟩ := ofValue_of_tellsDay hw
  refine ⟨j, k, hj, hk, ?_, ?_, ?_⟩
  · rintro rfl
    exact hjd.unique hke
  · rintro (⟨hvdate, hwdate⟩ | ⟨hvfull, hwfull⟩) rfl
    · rw [hjlabel hvdate, hklabel hwdate]
    · rw [hjfull hvfull, hkfull hwfull]
  · intro hvfull hwfull hlt a b rows ha hb hp
    have htexts : j < k := by
      rw [hjfull hvfull, hkfull hwfull]
      exact Date.iso_lt_iff.mpr hlt
    have hka := Row.sortKey_of_text ha
    have hkb := Row.sortKey_of_text hb
    constructor
    · exact Row.sort_pair ⟨_, _, hka, hkb, .inl htexts⟩ hp
    · exact Row.sort_pair ⟨_, _, hkb, hka, .inl htexts⟩ (hp.trans (List.Perm.swap b a []))

/-- The last evening of a year, as a text, and the first day of the next. -/
theorem ofValue_days_newYear :
    (Value.text "2023-12-31T23:30").TellsDay { year := 2023, month := 12, day := 31 } ∧
    (Value.scalar (.date { year := 2024, month := 1, day := 1 })).TellsDay
      { year := 2024, month := 1, day := 1 } ∧
    ∃ j k : String, ofValue (.text "2023-12-31T23:30") = .ok (ofText j true) ∧
      ofValue (.scalar (.date { year := 2024, month := 1, day := 1 })) = .ok (ofText k true) ∧
      j ≠ k ∧
      Row.sort .ascending [.plain (.text k) 1.0 [] none none, .plain (.text j) 2.0 [] none none] =
        .ok [.plain (.text j) 2.0 [] none none, .plain (.text k) 1.0 [] none none] := by
  have heve : (Value.text "2023-12-31T23:30").TellsDay { year := 2023, month := 12, day := 31 } :=
    Value.day?_eq_some_iff.mp rfl
  have hday : (Value.scalar (.date { year := 2024, month := 1, day := 1 })).TellsDay
      { year := 2024, month := 1, day := 1 } := .inl rfl
  have hascii : (Value.text "2023-12-31T23:30").DayInFull := by
    have hten : ("2023-12-31T23:30".toList.take 10).all fun c => c.toNat < 128 := by decide
    exact fun c hc => of_decide_eq_true (List.all_eq_true.mp hten c hc)
  have hyear : (Value.scalar (.date { year := 2024, month := 1, day := 1 })).DayInFull := by
    have hyear : 1000 ≤ 2024 := by decide
    exact hyear
  have hlt : Date.number { year := 2023, month := 12, day := 31 } <
      Date.number { year := 2024, month := 1, day := 1 } := by decide
  obtain ⟨j, k, hj, hk, htell, -, hsort⟩ := ofValue_days heve hday
  refine ⟨heve, hday, j, k, hj, hk, fun h => ?_, ?_⟩
  · have hsame := htell h
    rw [hsame] at hlt
    exact absurd hlt (Nat.lt_irrefl _)
  · exact (hsort hascii hyear hlt _ _ _ rfl rfl (List.Perm.swap _ _ [])).1

/-- One day of the year 99, once as a text, once as a date. -/
theorem key_ne_of_shortYear :
    (Value.text "0099-03-04").TellsDay { year := 99, month := 3, day := 4 } ∧
    (Value.scalar (.date { year := 99, month := 3, day := 4 })).TellsDay
      { year := 99, month := 3, day := 4 } ∧
    ∃ p q, ofValue (.text "0099-03-04") = .ok p ∧
      ofValue (.scalar (.date { year := 99, month := 3, day := 4 })) = .ok q ∧ p.key ≠ q.key := by
  refine ⟨Value.day?_eq_some_iff.mp rfl, .inl rfl, ofText "0099-03-04" true,
    ofText "99-03-04" true, rfl, rfl, ?_⟩
  have hne : "0099-03-04" ≠ "99-03-04" := by decide
  exact hne

end Position
end NotePlot
