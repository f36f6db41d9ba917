import NotePlot.Value.Kind
import NotePlot.Proofs.Failure.Only
import NotePlot.Proofs.Text.Blank
/-! Numbers that are too large: an integer of which no double is near, be it given as one or spelled
in base sixteen. Decimal numerals are never too large, as they become infinite. -/
namespace NotePlot

open Text Outcome

variable {c : Char} {cs : List Char} {n : Nat} {m : Int}

/-- An integer beyond the greatest double. -/
def IsBeyondDoubles (n : Int) : Prop := (Float.ofInt n).isInf

instance (n : Int) : Decidable (IsBeyondDoubles n) := inferInstanceAs (Decidable (_ = true))

theorem floatOfInt_of_isBeyondDoubles (h : IsBeyondDoubles m) : floatOfInt m = .error .overflow :=
  if_pos h

theorem floatOfInt_of_not (h : ¬ IsBeyondDoubles m) : floatOfInt m = .ok (Float.ofInt m) := if_neg h

namespace Numeral

/-- A numeral in base sixteen that is too large. -/
def IsTooLarge (cs : List Char) : Prop :=
  ∃ n : Nat, hexadecimal? cs = some n ∧ IsBeyondDoubles n

theorem hexadecimal?_eq_some (h : hexadecimal? cs = some n) :
    ∃ x ds, cs = '0' :: x :: ds ∧ (x = 'x' ∨ x = 'X') := by
  unfold hexadecimal? at h
  split at h
  next x ds =>
    split at h
    next hx => exact ⟨x, ds, rfl, hx.1⟩
    next => cases h
  next => cases h

/-- Numerals in base sixteen are no decimal ones. -/
theorem read?_of_hexadecimal? (h : hexadecimal? cs = some n) : read? cs = none := by
  obtain ⟨x, ds, rfl, hx⟩ := hexadecimal?_eq_some h
  obtain rfl | rfl := hx <;> rfl

/-- What begins with a sign of another sort is no numeral in base sixteen. -/
theorem not_isTooLarge_cons (hb : ¬ isBlank c) (h0 : c ≠ '0') :
    ¬ IsTooLarge (trim (c :: cs)) := by
  rintro ⟨n, hn, -⟩
  rw [trim, trimStart_cons_of_not_isBlank hb, trimEnd_cons_of_not_isBlank hb] at hn
  obtain ⟨x, ds, hcs, -⟩ := hexadecimal?_eq_some hn
  exact h0 (List.cons.inj hcs).1

end Numeral

theorem numberInText_of_isTooLarge (h : Numeral.IsTooLarge (trim cs)) :
    numberInText cs = .error .overflow := by
  obtain ⟨n, hn, hbig⟩ := h
  have hne : ¬ (trim cs).isEmpty := by
    obtain ⟨x, ds, hcs, -⟩ := Numeral.hexadecimal?_eq_some hn
    rw [hcs]
    exact Bool.false_ne_true
  unfold numberInText
  simp only [if_neg hne, Numeral.read?_of_hexadecimal? hn, hn, floatOfInt_of_isBeyondDoubles hbig]
  rfl

/-- Any text that spells no such number can be read. -/
theorem exists_numberInText (h : ¬ Numeral.IsTooLarge (trim cs)) : ∃ r, numberInText cs = .ok r := by
  unfold numberInText
  dsimp only
  split
  · exact ⟨_, rfl⟩
  · split
    · exact ⟨_, rfl⟩
    · split
      next n hn =>
        have hsmall : ¬ IsBeyondDoubles n := fun hbig => h ⟨n, hn, hbig⟩
        exact ⟨Number.of? (Float.ofInt n), by rw [floatOfInt_of_not hsmall]; rfl⟩
      next =>
        split
        · exact ⟨_, rfl⟩
        · split <;> exact ⟨_, rfl⟩

theorem exists_numberInText_iff :
    (∃ r, numberInText cs = .ok r) ↔ ¬ Numeral.IsTooLarge (trim cs) := by
  refine ⟨?_, exists_numberInText⟩
  rintro ⟨r, hr⟩ h
  rw [numberInText_of_isTooLarge h] at hr
  cases hr

theorem failsOnly_numberInText (cs : List Char) :
    FailsOnly (fun failure => failure = .overflow ∧ Numeral.IsTooLarge (trim cs))
      (numberInText cs) := by
  by_cases h : Numeral.IsTooLarge (trim cs)
  · rw [numberInText_of_isTooLarge h]
    exact failsOnly_error ⟨rfl, h⟩
  · obtain ⟨r, hr⟩ := exists_numberInText h
    exact failsOnly_of_ok hr

namespace Value

/-- A number without a double: an integer, or a text that spells one. -/
def IsTooLarge : Value → Prop
  | scalar (.int n) => IsBeyondDoubles n
  | scalar (.text s) => Numeral.IsTooLarge (trim s.toList)
  | _ => False

theorem failsOnly_number (v : Value) :
    FailsOnly (fun failure => failure = .overflow ∧ v.IsTooLarge) v.number := by
  unfold number
  split
  next b => exact failsOnly_ok _
  next n =>
    refine failsOnly_map ?_
    by_cases h : IsBeyondDoubles n
    · rw [floatOfInt_of_isBeyondDoubles h]
      exact failsOnly_error ⟨rfl, h⟩
    · rw [floatOfInt_of_not h]
      exact failsOnly_ok _
  next x => exact failsOnly_ok _
  next s => exact failsOnly_numberInText s.toList
  next => exact failsOnly_ok _

end Value
end NotePlot
