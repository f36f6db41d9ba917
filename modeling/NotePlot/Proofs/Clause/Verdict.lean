import NotePlot.Result.Row
import NotePlot.Proofs.Clause.Grammar
import NotePlot.Proofs.Clause.Operand
import NotePlot.Proofs.Value.Spelled
/-! The verdict on a clause: it can be read, or it has a fault. There is none only if an operand of
the clause is out of reach, which is a relative date that has no day, or a number without a double.
-/
namespace NotePlot

open Text Outcome

variable {now : Reference} {day : Date} {cs : List Char} {dateField : Bool} {token clause : String}
  {isDateField : String → Bool} {fault : ClauseFault}

namespace Operand

/-- An operand that is out of reach: without quotes, and a relative date that has no day or a number
without a double. -/
structure IsOutOfReach (day : Date) (token : String) : Prop where
  bare : unquoted? (trim token.toList) = none
  far : Relative.OutOfReach day (lowerChars (trim token.toList)) ∨
    Numeral.IsTooLarge (trim token.toList)

theorem leadingMoment?_of_isTooLarge (h : Numeral.IsTooLarge cs) : leadingMoment? cs = none := by
  obtain ⟨n, hn, -⟩ := h
  obtain ⟨x, ds, rfl, hx⟩ := Numeral.hexadecimal?_eq_some hn
  have hletter : ¬ isDigit x := by obtain rfl | rfl := hx <;> decide
  have hyear : number? (('0' :: x :: ds).take 4) = none := by simp [number?, hletter]
  simp only [leadingMoment?, takeDay?, takeNumber?, hyear, Option.map_none, ite_self]
  rfl

theorem dayOf?_of_isTooLarge (h : Numeral.IsTooLarge cs) :
    Relative.dayOf? day (lowerChars cs) = .ok none := by
  obtain ⟨n, hn, -⟩ := h
  obtain ⟨x, ds, rfl, -⟩ := Numeral.hexadecimal?_eq_some hn
  obtain ⟨rest, hrest⟩ : ∃ rest, lowerChars ('0' :: x :: ds) = '0' :: rest := ⟨_, rfl⟩
  have hplain : looksRelative (lowerChars ('0' :: x :: ds)) = false := by
    rw [hrest]
    rfl
  rw [Relative.dayOf?, Relative.ofLower_of_not_looksRelative hplain]
  rfl

theorem exists_ofPlain_iff (h : trim cs = cs) :
    (∃ x, ofPlain cs = .ok x) ↔ ¬ Numeral.IsTooLarge cs := by
  unfold ofPlain
  split
  next m hm =>
    refine iff_of_true ⟨_, rfl⟩ fun hbig => ?_
    rw [leadingMoment?_of_isTooLarge hbig] at hm
    cases hm
  next =>
    rw [← h, ← exists_numberInText_iff, h]
    cases numberInText cs with
    | error failure => exact iff_of_false nofun nofun
    | ok r => cases r <;> exact iff_of_true ⟨_, rfl⟩ ⟨_, rfl⟩

theorem exists_readOn_iff (h : trim cs = cs) : (∃ x, readOn day cs = .ok x) ↔
    ¬ (Relative.OutOfReach day (lowerChars cs) ∨ Numeral.IsTooLarge cs) := by
  rw [not_or, ← Relative.exists_dayOf?_iff, readOn]
  cases hd : Relative.dayOf? day (lowerChars cs) with
  | error failure =>
    refine iff_of_false ?_ ?_
    · rintro ⟨x, hx⟩
      cases hx
    · rintro ⟨⟨answer, ha⟩, -⟩
      cases ha
  | ok r =>
    cases r with
    | none =>
      rw [ok_bind, exists_ofPlain_iff h]
      exact ⟨fun hn => ⟨⟨_, rfl⟩, hn⟩, fun hn => hn.2⟩
    | some d =>
      refine iff_of_true ⟨_, rfl⟩ ⟨⟨_, rfl⟩, fun hbig => ?_⟩
      cases (dayOf?_of_isTooLarge hbig).symm.trans hd

/-- An operand can be read on any day that it is not out of reach of. -/
theorem exists_read_iff (hday : dayOf now = .ok day) :
    (∃ x, read now dateField token = .ok x) ↔ ¬ IsOutOfReach day token := by
  cases hq : unquoted? (trim token.toList) with
  | some inner =>
    rw [read_of_unquoted? hq]
    refine iff_of_true ⟨_, rfl⟩ fun hout => ?_
    cases hq.symm.trans hout.bare
  | none =>
    have hout : IsOutOfReach day token ↔ (Relative.OutOfReach day (lowerChars (trim token.toList)) ∨
        Numeral.IsTooLarge (trim token.toList)) := ⟨fun h => h.far, fun h => ⟨hq, h⟩⟩
    rw [hout, ← exists_readOn_iff (trim_trim _)]
    by_cases hzero : dateField ∧ trim token.toList = ['0']
    · obtain ⟨rfl, hzero⟩ := hzero
      rw [read_zero hday hzero, hzero]
      exact iff_of_true ⟨_, rfl⟩ ⟨_, rfl⟩
    · rw [read_bare hday hq hzero]

end Operand

namespace Clause

/-- The operands of a clause: the bounds of a range, or else the right side of a comparison with a
field. -/
inductive HasOperand (clause : String) : String → Prop
  | lower {field lower upper : List Char}
      (h : range? (trim clause.toList) = some (field, lower, upper)) :
      HasOperand clause (String.ofList lower)
  | upper {field lower upper : List Char}
      (h : range? (trim clause.toList) = some (field, lower, upper)) :
      HasOperand clause (String.ofList upper)
  | right {left right : List Char} {op : Operator} (hr : ¬ IsRange (trim clause.toList))
      (h : Scan (trim clause.toList) left [(op, right)]) (hl : ¬ AllBlank left) :
      HasOperand clause (String.ofList right)

theorem forall_hasOperand_of_range? {P : String → Prop} {field lower upper : List Char}
    (h : range? (trim clause.toList) = some (field, lower, upper)) :
    (∀ token, HasOperand clause token → P token) ↔
      P (String.ofList lower) ∧ P (String.ofList upper) := by
  refine ⟨fun hall => ⟨hall _ (.lower h), hall _ (.upper h)⟩, ?_⟩
  rintro ⟨hlower, hupper⟩ token (h' | h' | ⟨hr, -⟩)
  · cases h.symm.trans h'
    exact hlower
  · cases h.symm.trans h'
    exact hupper
  · rw [isRange_trim_iff, h] at hr
    exact (hr rfl).elim

theorem forall_hasOperand_of_comparison? {P : String → Prop} {left right : List Char}
    {op : Operator} (hr : range? (trim clause.toList) = none)
    (h : comparison? (trim clause.toList) = some (left, op, right)) (hl : ¬ AllBlank left) :
    (∀ token, HasOperand clause token → P token) ↔ P (String.ofList right) := by
  have hform : ¬ IsRange (trim clause.toList) := by
    rw [isRange_trim_iff, hr]
    exact Bool.false_ne_true
  refine ⟨fun hall => hall _ (.right hform (comparison?_eq_some_iff.mp h) hl), ?_⟩
  rintro hright token (h' | h' | ⟨-, h', -⟩)
  · cases hr.symm.trans h'
  · cases hr.symm.trans h'
  · cases h.symm.trans (comparison?_eq_some_iff.mpr h')
    exact hright

/-- A clause can be read if it is in one of the two forms, with no operand out of reach. -/
theorem exists_read_iff (hday : Operand.dayOf now = .ok day) :
    (∃ k, Clause.read now isDateField clause = .ok k) ↔
      (IsRange (trim clause.toList) ∨ IsComparison (trim clause.toList)) ∧
        ∀ token, HasOperand clause token → ¬ Operand.IsOutOfReach day token := by
  cases hr : range? (trim clause.toList) with
  | some parts =>
    obtain ⟨field, lower, upper⟩ := parts
    have hform : IsRange (trim clause.toList) := by
      rw [isRange_trim_iff, hr]
      rfl
    rw [read_of_range? hr, forall_hasOperand_of_range? hr, ← Operand.exists_read_iff hday,
      ← Operand.exists_read_iff hday]
    simp only [bind_eq_ok]
    constructor
    · rintro ⟨k, x, hx, y, hy, -⟩
      exact ⟨.inl hform, ⟨x, hx⟩, ⟨y, hy⟩⟩
    · rintro ⟨-, ⟨x, hx⟩, ⟨y, hy⟩⟩
      exact ⟨_, x, hx, y, hy, rfl⟩
  | none =>
    cases hc : comparison? (trim clause.toList) with
    | none =>
      rw [read_of_formless hr hc]
      refine iff_of_false nofun ?_
      rintro ⟨h | ⟨left, op, right, h, -⟩, -⟩
      · rw [isRange_trim_iff, hr] at h
        cases h
      · cases hc.symm.trans (comparison?_eq_some_iff.mpr h)
    | some parts =>
      obtain ⟨left, op, right⟩ := parts
      by_cases hl : AllBlank left
      · rw [read_of_blank_field hr hc hl]
        refine iff_of_false nofun ?_
        rintro ⟨h | ⟨left', op', right', h, hl'⟩, -⟩
        · rw [isRange_trim_iff, hr] at h
          cases h
        · cases hc.symm.trans (comparison?_eq_some_iff.mpr h)
          exact hl' hl
      · have hform : IsComparison (trim clause.toList) :=
          ⟨left, op, right, comparison?_eq_some_iff.mp hc, hl⟩
        rw [read_of_comparison? hr hc hl, forall_hasOperand_of_comparison? hr hc hl,
          ← Operand.exists_read_iff hday]
        simp only [bind_eq_ok]
        constructor
        · rintro ⟨k, x, hx, -⟩
          exact ⟨.inr hform, x, hx⟩
        · rintro ⟨-, x, hx⟩
          exact ⟨_, x, hx, rfl⟩

theorem check_eq_none_iff : check now clause = .ok none ↔
    ∃ k, Clause.read now DateFields.usual.includes clause = .ok k := by
  unfold check
  split
  next k hk => exact iff_of_true rfl ⟨k, hk⟩
  next fault hf => exact iff_of_false nofun fun ⟨_, hk⟩ => nomatch hf.symm.trans hk
  next failure _ hf => exact iff_of_false nofun fun ⟨_, hk⟩ => nomatch hf.symm.trans hk

theorem check_eq_some_iff : check now clause = .ok (some fault) ↔
    Clause.read now DateFields.usual.includes clause = .error (.clause fault) := by
  unfold check
  split
  next k hk => exact iff_of_false nofun fun hf => nomatch hk.symm.trans hf
  next other hf => simp [hf]
  next failure hn hf =>
    refine iff_of_false nofun fun h => ?_
    exact hn fault (Except.error.inj (hf.symm.trans h))

/-- A clause in neither form has no operands. -/
theorem form_of_hasOperand (h : HasOperand clause token) :
    IsRange (trim clause.toList) ∨ IsComparison (trim clause.toList) := by
  cases h with
  | lower h | upper h => exact .inl (isRange_trim_iff.mpr (h ▸ rfl))
  | right _ h hl => exact .inr ⟨_, _, _, h, hl⟩

/-- A clause has a fault as long as it is in neither form, whatever its operands are. -/
theorem exists_fault_iff : (∃ fault, check now clause = .ok (some fault)) ↔
    ¬ (IsRange (trim clause.toList) ∨ IsComparison (trim clause.toList)) := by
  simp only [check_eq_some_iff, read_eq_clause_iff, not_or]
  constructor
  · rintro ⟨_, hr, ⟨-, _, _, _, hs, hl⟩ | ⟨-, hn⟩⟩
    · exact ⟨hr, fun ⟨_, _, _, hs', hl'⟩ => hl' (left_eq_of_scan hs hs' ▸ hl)⟩
    · exact ⟨hr, fun ⟨left, op, right, hs, _⟩ => hn ⟨left, op, right, hs⟩⟩
  · rintro ⟨hr, hc⟩
    by_cases hs : ∃ left op right, Scan (trim clause.toList) left [(op, right)]
    · obtain ⟨left, op, right, hs⟩ := hs
      have hl : AllBlank left := by_contra fun hl => hc ⟨left, op, right, hs, hl⟩
      exact ⟨_, hr, .inl ⟨rfl, left, op, right, hs, hl⟩⟩
    · exact ⟨_, hr, .inr ⟨rfl, hs⟩⟩

/-- On any day, a clause that has an operand out of reach has no verdict, and every other clause has
one: that it can be read, if it is in one of the two forms, and else the fault that it has. -/
theorem check_answers_iff (hday : Operand.dayOf now = .ok day) (clause : String) :
    ((∃ verdict, check now clause = .ok verdict) ↔
      ∀ token, HasOperand clause token → ¬ Operand.IsOutOfReach day token) ∧
    (check now clause = .ok none ↔
      (IsRange (trim clause.toList) ∨ IsComparison (trim clause.toList)) ∧
        ∀ token, HasOperand clause token → ¬ Operand.IsOutOfReach day token) ∧
    ((∃ fault, check now clause = .ok (some fault)) ↔
      ¬ (IsRange (trim clause.toList) ∨ IsComparison (trim clause.toList))) := by
  have hgood : check now clause = .ok none ↔
      (IsRange (trim clause.toList) ∨ IsComparison (trim clause.toList)) ∧
        ∀ token, HasOperand clause token → ¬ Operand.IsOutOfReach day token :=
    check_eq_none_iff.trans (exists_read_iff hday)
  refine ⟨?_, hgood, exists_fault_iff⟩
  constructor
  · rintro ⟨verdict, h⟩ token ht
    cases verdict with
    | none => exact (hgood.mp h).2 token ht
    | some fault => exact (exists_fault_iff.mp ⟨fault, h⟩ (form_of_hasOperand ht)).elim
  · intro hall
    by_cases hform : IsRange (trim clause.toList) ∨ IsComparison (trim clause.toList)
    · exact ⟨none, hgood.mpr ⟨hform, hall⟩⟩
    · obtain ⟨fault, h⟩ := exists_fault_iff.mpr hform
      exact ⟨some fault, h⟩

theorem check_answers_iff_firstMidnight :
    Operand.dayOf (.ofMoment (.midnight { year := 1, month := 1, day := 1 })) =
      .ok { year := 1, month := 1, day := 1 } ∧
    (∃ verdict, check (.ofMoment (.midnight { year := 1, month := 1, day := 1 })) "due > +1d" =
      .ok verdict) ∧
    ¬ ∃ verdict, check (.ofMoment (.midnight { year := 1, month := 1, day := 1 }))
      "due > yesterday" = .ok verdict := by
  have hday : Operand.dayOf (.ofMoment (.midnight { year := 1, month := 1, day := 1 })) =
      .ok { year := 1, month := 1, day := 1 } := rfl
  have htomorrow : comparison? (trim "due > +1d".toList) = some ("due ".toList, .gt, " +1d".toList) :=
    rfl
  have hyesterday : comparison? (trim "due > yesterday".toList) =
      some ("due ".toList, .gt, " yesterday".toList) := rfl
  have hfield : ¬ AllBlank "due ".toList := by decide
  have hread : ∃ x, Operand.read (.ofMoment (.midnight { year := 1, month := 1, day := 1 })) true
      " +1d" = .ok x := ⟨_, rfl⟩
  have hreach := (Operand.exists_read_iff hday).mp hread
  have hfar : Operand.IsOutOfReach { year := 1, month := 1, day := 1 } " yesterday" :=
    ⟨rfl, .inl (.yesterday rfl)⟩
  refine ⟨hday, ?_, fun h => ?_⟩
  · refine (check_answers_iff hday "due > +1d").1.mpr ?_
    exact (forall_hasOperand_of_comparison? rfl htomorrow hfield).mpr hreach
  · have hall := (check_answers_iff hday "due > yesterday").1.mp h
    exact (forall_hasOperand_of_comparison? rfl hyesterday hfield).mp hall hfar

/-- Steps out of the calendar leave a clause with no verdict. -/
theorem check_farOperands :
    check (.ofMoment (.midnight { year := 2024, month := 1, day := 15 }))
      "due > +999999999999d" = .error .overflow ∧
    check (.ofMoment (.midnight { year := 2024, month := 1, day := 15 }))
      "due > +9999999m" = .error (.range (.year 835357)) := by
  constructor
  · exact failure?_eq_some_iff.mp (by decide +kernel)
  · exact failure?_eq_some_iff.mp (by decide +kernel)

end Clause
end NotePlot
