import NotePlot.Proofs.Calendar.Clock
import NotePlot.Proofs.Failure.Only
import NotePlot.Timeline.Interval

/-! Intervals between two ends: they reach from the earlier end to the later one, and nothing else
of a note matters to them, save that the length of its block has to be a span of time. -/
namespace NotePlot

open Outcome

variable {start finish a b : Moment} {due : Option Moment} {duration block : Value} {i : Interval}
  {n : Int}

namespace Span

/-- Whole minutes are a span if their days are not too many. -/
theorem exists_ofMinutes?_iff : (∃ span, ofMinutes? n = some span) ↔
    -maxSpanDays ≤ n / 1440 ∧ n / 1440 ≤ maxSpanDays := by
  have hdays : Int.fdiv (n * microsPerMinute) microsPerDay = n / 1440 := by
    have hday : (microsPerDay : Int) = 1440 * microsPerMinute := rfl
    rw [hday, Int.mul_comm 1440, Int.mul_comm n, Int.fdiv_eq_ediv_of_nonneg _ (by decide),
      Int.mul_ediv_mul_of_pos _ _ (by decide)]
  unfold ofMinutes? ofMicros? isSpanTooLong
  dsimp only
  rw [hdays]
  split
  next hlong =>
    simp only [Bool.or_eq_true, decide_eq_true_eq] at hlong
    refine iff_of_false (by simp) ?_
    omega
  next hshort =>
    simp only [Bool.or_eq_true, decide_eq_true_eq] at hshort
    refine iff_of_true ⟨_, rfl⟩ ?_
    omega

end Span

namespace Interval

/-- The rungs of the ladder on which dates come to the two ends of an interval. A missing end is a
span away from the one that is there. Where both are missing, a due date is the end of a duration,
and the beginning of a block. -/
inductive Rung (span : Int) (hasDuration : Bool) :
    Option Moment → Option Moment → Option Moment → Moment → Moment → Prop
  | ends (start finish : Moment) (due : Option Moment) :
      Rung span hasDuration (some start) (some finish) due start finish
  | start {start finish : Moment} (due : Option Moment)
      (h : (finish.ticks : Int) = start.ticks + span) :
      Rung span hasDuration (some start) none due start finish
  | finish {start finish : Moment} (due : Option Moment)
      (h : (start.ticks : Int) = finish.ticks - span) :
      Rung span hasDuration none (some finish) due start finish
  | dueEnd {start due : Moment} (hd : hasDuration = true)
      (h : (start.ticks : Int) = due.ticks - span) :
      Rung span hasDuration none none (some due) start due
  | dueStart {due finish : Moment} (hd : hasDuration = false)
      (h : (finish.ticks : Int) = due.ticks + span) :
      Rung span hasDuration none none (some due) due finish

/-- An interval reaches from the earlier to the later of two moments. -/
def Joins (i : Interval) (a b : Moment) : Prop := i.start = min a b ∧ i.finish = max a b

theorem joins_comm : i.Joins a b ↔ i.Joins b a := by
  unfold Joins
  rw [min_comm, max_comm]

theorem between_eq (a b : Moment) : between a b = ⟨min a b, max a b, min_le_max⟩ := by
  unfold between
  split
  next h => simp only [min_eq_left h, max_eq_right h]
  next h =>
    have h := le_of_not_ge h
    simp only [min_eq_right h, max_eq_left h]

theorem between_eq_iff : between a b = i ↔ i.Joins a b := by
  rw [between_eq, Interval.mk.injEq]
  exact and_congr eq_comm eq_comm

theorem shifted_eq_some_iff : (a.shift? n).map (between a) = some i ↔
    ∃ b, (b.ticks : Int) = a.ticks + n ∧ i.Joins a b := by
  simp only [Option.map_eq_some_iff, Moment.shift?_eq_some_iff, between_eq_iff]

/-- Dates make an interval with a span exactly if they come to its ends on a rung of the ladder. -/
theorem ofSpan?_eq_some_iff {start finish due : Option Moment} {hasDuration : Bool} :
    ofSpan? start finish due n hasDuration = some i ↔
      ∃ s f, Rung n hasDuration start finish due s f ∧ i.Joins s f := by
  constructor
  · intro h
    cases start with
    | some s =>
      cases finish with
      | some f => exact ⟨s, f, .ends s f due, between_eq_iff.mp (Option.some.inj h)⟩
      | none =>
        obtain ⟨f, hf, hi⟩ := shifted_eq_some_iff.mp h
        exact ⟨s, f, .start due hf, hi⟩
    | none =>
      cases finish with
      | some f =>
        obtain ⟨s, hs, hi⟩ := shifted_eq_some_iff.mp h
        exact ⟨s, f, .finish due hs, joins_comm.mp hi⟩
      | none =>
        cases due with
        | none => cases h
        | some d =>
          cases hasDuration with
          | true =>
            obtain ⟨s, hs, hi⟩ := shifted_eq_some_iff.mp h
            exact ⟨s, d, .dueEnd rfl hs, joins_comm.mp hi⟩
          | false =>
            obtain ⟨f, hf, hi⟩ := shifted_eq_some_iff.mp h
            exact ⟨d, f, .dueStart rfl hf, hi⟩
  · rintro ⟨s, f, hrung, hi⟩
    cases hrung with
    | ends => exact congrArg some (between_eq_iff.mpr hi)
    | start due hf => exact shifted_eq_some_iff.mpr ⟨f, hf, hi⟩
    | finish due hs => exact shifted_eq_some_iff.mpr ⟨s, hs, joins_comm.mp hi⟩
    | dueEnd hd hs =>
      subst hd
      exact shifted_eq_some_iff.mpr ⟨s, hs, joins_comm.mp hi⟩
    | dueStart hd hf =>
      subst hd
      exact shifted_eq_some_iff.mpr ⟨f, hf, hi⟩

/-- The span that an interval is made with is `n`: that of a duration that counts, or else that of
the block. -/
structure IsSpan (duration block : Value) (hasDuration : Bool) (n : Int) : Prop where
  counts : counts duration = .ok hasDuration
  length : lengthOf (if hasDuration then duration else block) = .ok (some n)

/-- What dates, a duration and a block make an interval of. -/
def Reconstructs (start finish due : Option Moment) (duration block : Value) (i : Interval) :
    Prop :=
  ∃ hasDuration n, IsSpan duration block hasDuration n ∧
    ∃ s f, Rung n hasDuration start finish due s f ∧ i.Joins s f

theorem ofDates_eq_some_iff {start finish due : Option Moment} :
    ofDates start finish due duration block = .ok (some i) ↔
      Reconstructs start finish due duration block i := by
  constructor
  · intro h
    obtain ⟨hasDuration, hcounts, h⟩ := bind_eq_ok.mp h
    obtain ⟨span?, hlength, h⟩ := bind_eq_ok.mp h
    obtain ⟨n, rfl, hi⟩ := Option.bind_eq_some_iff.mp (Except.ok.inj h)
    exact ⟨hasDuration, n, ⟨hcounts, hlength⟩, ofSpan?_eq_some_iff.mp hi⟩
  · rintro ⟨hasDuration, n, hspan, hrung⟩
    rw [ofDates, hspan.counts, ok_bind, hspan.length, ok_bind, Option.bind_some,
      ofSpan?_eq_some_iff.mpr hrung]
    rfl

/-- The duration, if it counts, or else the block is a span of time. -/
def HasSpan (duration block : Value) : Prop := ∃ hasDuration n, IsSpan duration block hasDuration n

theorem hasSpan_int_iff (h : counts duration = .ok false) :
    HasSpan duration (.scalar (.int n)) ↔ -maxSpanDays ≤ n / 1440 ∧ n / 1440 ≤ maxSpanDays := by
  rw [← Span.exists_ofMinutes?_iff]
  constructor
  · rintro ⟨hasDuration, span, hspan⟩
    cases h.symm.trans hspan.counts
    exact ⟨span, Except.ok.inj hspan.length⟩
  · rintro ⟨span, hspan⟩
    exact ⟨false, span, h, congrArg Except.ok hspan⟩

theorem reconstructs_ends (h : HasSpan duration block) :
    Reconstructs (some start) (some finish) due duration block
      ⟨min start finish, max start finish, min_le_max⟩ := by
  obtain ⟨hasDuration, n, hspan⟩ := h
  exact ⟨hasDuration, n, hspan, start, finish, .ends start finish due, rfl, rfl⟩

/-- Two ends make the interval from the earlier to the later one as long as the duration, if it
counts, or else the block is a span of time; the due date has no say in it. Without such a span they
make none. A block of whole minutes is one as long as it has no more than 999999999 days. -/
theorem ofDates_of_ends (start finish : Moment) (due : Option Moment) (duration block : Value) :
    (HasSpan duration block → ∃ i,
      ofDates (some start) (some finish) due duration block = .ok (some i) ∧
        i.start = min start finish ∧ i.finish = max start finish) ∧
    (¬ HasSpan duration block → ∀ i,
      ofDates (some start) (some finish) due duration block ≠ .ok (some i)) ∧
    (counts duration = .ok false → ∀ n : Int, HasSpan duration (.scalar (.int n)) ↔
      -maxSpanDays ≤ n / 1440 ∧ n / 1440 ≤ maxSpanDays) := by
  refine ⟨fun h => ?_, fun h i hi => ?_, fun h n => hasSpan_int_iff h⟩
  · exact ⟨_, ofDates_eq_some_iff.mpr (reconstructs_ends h), rfl, rfl⟩
  · obtain ⟨hasDuration, n, hspan, -⟩ := ofDates_eq_some_iff.mp hi
    exact h ⟨hasDuration, n, hspan⟩

/-- Ends in the wrong order, with a due date and a duration that would lead elsewhere. -/
theorem ofDates_of_ends_swapped :
    HasSpan (.scalar (.float 45.0)) (.scalar (.int 60)) ∧ ∃ i,
      ofDates (some (.midnight { year := 2024, month := 3, day := 1 }))
          (some (.midnight { year := 2024, month := 2, day := 29 }))
          (some (.midnight { year := 2024, month := 1, day := 10 }))
          (.scalar (.float 45.0)) (.scalar (.int 60)) = .ok (some i) ∧
        i.start = .midnight { year := 2024, month := 2, day := 29 } ∧
        i.finish = .midnight { year := 2024, month := 3, day := 1 } := by
  have hspan : HasSpan (.scalar (.float 45.0)) (.scalar (.int 60)) :=
    ⟨true, 2700000000, toOption_eq_some_iff.mp (by decide +kernel),
      toOption_eq_some_iff.mp (by decide +kernel)⟩
  have hle : Moment.midnight { year := 2024, month := 2, day := 29 } ≤
      .midnight { year := 2024, month := 3, day := 1 } := by decide
  obtain ⟨i, hi, hstart, hfinish⟩ := (ofDates_of_ends
    (.midnight { year := 2024, month := 3, day := 1 })
    (.midnight { year := 2024, month := 2, day := 29 })
    (some (.midnight { year := 2024, month := 1, day := 10 })) _ _).1 hspan
  exact ⟨hspan, i, hi, hstart.trans (min_eq_right hle), hfinish.trans (max_eq_left hle)⟩

/-- A note with both ends loses its interval to a duration that it does not need. -/
theorem ofDates_ends_lost :
    (∃ i, ofDates (some (.midnight { year := 2024, month := 2, day := 29 }))
      (some (.midnight { year := 2024, month := 3, day := 1 })) none .null (.scalar (.int 60)) =
        .ok (some i)) ∧
    ofDates (some (.midnight { year := 2024, month := 2, day := 29 }))
      (some (.midnight { year := 2024, month := 3, day := 1 })) none (.scalar (.float 1e300))
        (.scalar (.int 60)) = .ok none := by
  constructor
  · have hspan : HasSpan .null (.scalar (.int 60)) := (hasSpan_int_iff rfl).mpr (by decide)
    exact ⟨_, ofDates_eq_some_iff.mpr (reconstructs_ends hspan)⟩
  · have hcounts : counts (.scalar (.float 1e300)) = .ok true :=
      toOption_eq_some_iff.mp (by decide +kernel)
    have hlength : lengthOf (.scalar (.float 1e300)) = .ok none :=
      toOption_eq_some_iff.mp (by decide +kernel)
    rw [ofDates, hcounts, ok_bind, if_pos rfl, hlength]
    rfl

end Interval
end NotePlot
