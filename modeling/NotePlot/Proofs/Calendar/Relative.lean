import NotePlot.Proofs.Calendar.Month
import NotePlot.Proofs.Failure.Only
import NotePlot.Proofs.Text.Blank
/-! Relative dates that are out of reach: those with too many digits, and those whose steps lead out
of the calendar. Every other relative date has a day. -/
namespace NotePlot.Relative

open Text Outcome

variable {day : Date} {r : Relative} {cs ds unit token : List Char} {sign : Char} {n : Int}
  {steps : Int → Relative}

/-- A relative date whose day lies outside the calendar. -/
def Leaves (day : Date) : Relative → Prop
  | today => False
  | yesterday => day.number = 0
  | days n => day.number + n < 0 ∨ dayCount ≤ day.number + n
  | weeks n => day.number + 7 * n < 0 ∨ dayCount ≤ day.number + 7 * n
  | months n => day.yearAfter n < firstYear ∨ lastYear < day.yearAfter n

theorem exists_resolve_iff : (∃ d, r.resolve day = .ok d) ↔ ¬ r.Leaves day := by
  have hlt := day.number_lt
  cases r with
  | today => exact iff_of_true ⟨day, rfl⟩ id
  | yesterday =>
    refine Date.exists_stepDays_iff.trans ?_
    simp only [Leaves]
    omega
  | days n =>
    refine Date.exists_stepDays_iff.trans ?_
    simp only [Leaves]
    omega
  | weeks n =>
    refine Date.exists_stepDays_iff.trans ?_
    simp only [Leaves]
    omega
  | months n =>
    refine Date.exists_stepMonths_iff.trans ?_
    simp only [Leaves]
    omega

/-- A text that consists of a sign, digits, and the letter of a unit, or none. -/
structure Spells (cs : List Char) (sign : Char) (ds : List Char) (steps : Int → Relative) :
    Prop where
  isSign : sign = '+' ∨ sign = '-'
  ne_nil : ds ≠ []
  digits : ∀ c ∈ ds, isDigit c
  text : ∃ unit, unit? unit = some steps ∧ cs = sign :: (ds ++ unit)

/-- The number of units that a sign and digits make. -/
def amount (sign : Char) (ds : List Char) : Int :=
  if sign = '-' then -(numberOf ds : Int) else numberOf ds

/-- No unit begins with a digit. -/
theorem head?_of_unit? (h : unit? unit = some steps) : ∀ c, unit.head? = some c → ¬ isDigit c := by
  intro c hc
  unfold unit? at h
  split at h <;> cases h <;> cases hc <;> decide

theorem ofSigned_of_spells (h : Spells cs sign ds steps) : ofSigned cs =
    if mostDigits < ds.length then .error (.range (.numeralTooLong ds.length))
    else .ok (some (steps (amount sign ds))) := by
  obtain ⟨unit, hunit, rfl⟩ := h.text
  obtain ⟨htake, hdrop⟩ := takeWhile_dropWhile_of_head h.digits (head?_of_unit? hunit)
  have hform : ¬ (ds.isEmpty ∨ (sign ≠ '+' ∧ sign ≠ '-')) := by
    rintro (he | ⟨hp, hm⟩)
    · exact h.ne_nil (List.isEmpty_iff.mp he)
    · exact h.isSign.elim hp hm
  unfold ofSigned
  simp only [htake, hdrop, hunit, if_neg hform, Integer.ofDigits]
  split <;> rfl

/-- Only texts of that form are read as steps. -/
theorem exists_spells (h : ofSigned cs ≠ .ok none) : ∃ sign ds steps, Spells cs sign ds steps := by
  unfold ofSigned at h
  split at h
  next => exact (h rfl).elim
  next sign rest =>
    dsimp only at h
    split at h
    next => exact (h rfl).elim
    next steps hunit =>
      split at h
      next => exact (h rfl).elim
      next hform =>
        simp only [not_or, not_and, Decidable.not_not, List.isEmpty_iff] at hform
        refine ⟨sign, rest.takeWhile isDigit, steps, ?_, hform.1, ?_, _, hunit, ?_⟩
        · by_cases hp : sign = '+'
          · exact .inl hp
          · exact .inr (hform.2 hp)
        · exact fun c hc => List.mem_takeWhile_imp hc
        · rw [List.takeWhile_append_dropWhile]

/-- The day of a relative date in small letters, if the text is one. -/
def dayOf? (day : Date) (lower : List Char) : Outcome (Option Date) := do
  match ← ofLower lower with
  | some r => return some (← r.resolve day)
  | none => return none

/-- A relative date in small letters that has no day. -/
inductive OutOfReach (day : Date) : List Char → Prop
  | digits {cs ds : List Char} {sign : Char} {steps : Int → Relative}
      (h : Spells cs sign ds steps) (long : mostDigits < ds.length) : OutOfReach day cs
  | steps {cs ds : List Char} {sign : Char} {steps : Int → Relative}
      (h : Spells cs sign ds steps) (short : ds.length ≤ mostDigits)
      (leaves : (steps (amount sign ds)).Leaves day) : OutOfReach day cs
  | yesterday (first : day.number = 0) : OutOfReach day "yesterday".toList

theorem ofLower_of_spells (h : Spells cs sign ds steps) : ofLower cs = ofSigned cs := by
  obtain ⟨unit, -, rfl⟩ := h.text
  have apart {c : Char} {word : List Char} (hp : '+' ≠ c) (hm : '-' ≠ c) :
      ¬ sign :: (ds ++ unit) = c :: word := by
    intro he
    obtain rfl := (List.cons.inj he).1
    exact h.isSign.elim (fun h => hp h.symm) fun h => hm h.symm
  have htoday : ¬ sign :: (ds ++ unit) = "today".toList :=
    apart (c := 't') (by decide) (by decide)
  have hyesterday : ¬ sign :: (ds ++ unit) = "yesterday".toList :=
    apart (c := 'y') (by decide) (by decide)
  rw [ofLower, if_neg htoday, if_neg hyesterday]

theorem exists_some_iff {x : Outcome Date} : (∃ answer, (do return some (← x)) = .ok answer) ↔
    ∃ d, x = .ok d := by
  cases x with
  | ok d => exact iff_of_true ⟨some d, rfl⟩ ⟨d, rfl⟩
  | error failure => exact iff_of_false nofun nofun

theorem exists_dayOf?_of_ofLower (h : ofLower cs = .ok (some r)) :
    (∃ answer, dayOf? day cs = .ok answer) ↔ ¬ r.Leaves day := by
  rw [← exists_resolve_iff, dayOf?, h]
  exact exists_some_iff

theorem not_exists_dayOf?_of_outOfReach (h : OutOfReach day cs) :
    ¬ ∃ answer, dayOf? day cs = .ok answer := by
  cases h with
  | digits h long =>
    rintro ⟨answer, ha⟩
    rw [dayOf?, ofLower_of_spells h, ofSigned_of_spells h, if_pos long] at ha
    cases ha
  | steps h short leaves =>
    have hread := (ofLower_of_spells h).trans (ofSigned_of_spells h)
    rw [if_neg (Nat.not_lt.mpr short)] at hread
    rw [exists_dayOf?_of_ofLower hread]
    exact fun hn => hn leaves
  | yesterday first =>
    rw [exists_dayOf?_of_ofLower (r := yesterday) rfl]
    exact fun hn => hn first

/-- A text in small letters is no relative date, or one with a day, or out of reach. -/
theorem exists_dayOf?_iff : (∃ answer, dayOf? day cs = .ok answer) ↔ ¬ OutOfReach day cs := by
  refine ⟨fun h hn => not_exists_dayOf?_of_outOfReach hn h, fun h => ?_⟩
  by_cases htoday : cs = "today".toList
  · subst htoday
    exact (exists_dayOf?_of_ofLower (r := today) rfl).mpr id
  by_cases hyesterday : cs = "yesterday".toList
  · subst hyesterday
    exact (exists_dayOf?_of_ofLower (r := yesterday) rfl).mpr fun hfirst => h (.yesterday hfirst)
  by_cases hnone : ofSigned cs = .ok none
  · exact ⟨none, by rw [dayOf?, ofLower, if_neg htoday, if_neg hyesterday, hnone]; rfl⟩
  obtain ⟨sign, ds, steps, hs⟩ := exists_spells hnone
  have hshort : ¬ mostDigits < ds.length := fun hlong => h (.digits hs hlong)
  have hread := (ofLower_of_spells hs).trans (ofSigned_of_spells hs)
  rw [if_neg hshort] at hread
  exact (exists_dayOf?_of_ofLower hread).mpr fun hl => h (.steps hs (Nat.not_lt.mp hshort) hl)

/-- A text for a step of so many months: a sign, as many digits as a number may have, and the letter
m, in either case and with blanks around it or not. -/
def IsMonthToken (n : Int) (token : List Char) : Prop :=
  ∃ sign ds, Spells (lowerChars (trim token)) sign ds months ∧ ds.length ≤ mostDigits ∧
    amount sign ds = n

/-- The usual text for a step of months. -/
def monthToken (n : Int) : List Char :=
  (if n < 0 then '-' else '+') :: (padded 1 n.natAbs ++ ['m'])

theorem lowerChars_trim_monthToken (n : Int) :
    lowerChars (trim (monthToken n)) = monthToken n := by
  have hdigits := asciiDigits_padded 1 n.natAbs
  have hplain : ∀ c ∈ monthToken n, ¬ isBlank c ∧ c.toNat < 128 ∧ c.toLower = c := by
    intro c hc
    simp only [monthToken, List.mem_cons, List.mem_append, List.not_mem_nil, or_false] at hc
    rcases hc with rfl | hc | rfl
    · split <;> decide
    · have hrange := toNat_of_isAsciiDigit (hdigits c hc)
      refine ⟨?_, by omega, toLower_of_isAsciiDigit (hdigits c hc)⟩
      exact not_isBlank_of_isDigit (isDigit_of_asciiDigits hdigits hc)
    · decide
  have htrim : trim (monthToken n) = monthToken n := trim_of_noBlank fun c hc => (hplain c hc).1
  rw [htrim]
  exact lowerAfter_of_small (fun c hc => (hplain c hc).2) []

theorem isMonthToken_monthToken (h : n.natAbs < 10 ^ 6) : IsMonthToken n (monthToken n) := by
  have hspells : Spells (lowerChars (trim (monthToken n))) (if n < 0 then '-' else '+')
      (padded 1 n.natAbs) months := by
    rw [lowerChars_trim_monthToken]
    obtain ⟨hne, hdigits, -⟩ := number?_eq_some_iff.mp (number?_padded 1 n.natAbs)
    refine ⟨?_, hne, hdigits, ['m'], rfl, rfl⟩
    split
    · exact .inr rfl
    · exact .inl rfl
  have hlength := length_padded_one_le 6 n.natAbs (by decide) h
  refine ⟨_, _, hspells, Nat.le_trans hlength (by decide), ?_⟩
  rw [amount, numberOf_padded]
  by_cases hn : n < 0
  · rw [if_pos hn, if_pos rfl]
    omega
  · rw [if_neg hn, if_neg (by decide)]
    omega

/-- A text for a step of months stands for the day that the step leads to. -/
theorem dayOf?_of_isMonthToken (h : IsMonthToken n token) :
    dayOf? day (lowerChars (trim token)) = (day.stepMonths n).map some := by
  obtain ⟨sign, ds, hspells, hshort, rfl⟩ := h
  rw [dayOf?, ofLower_of_spells hspells, ofSigned_of_spells hspells,
    if_neg (Nat.not_lt.mpr hshort), ok_bind]
  cases hstep : day.stepMonths (amount sign ds) <;> simp [resolve, hstep] <;> rfl

end NotePlot.Relative
