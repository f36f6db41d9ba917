import NotePlot.Proofs.Value.Numeric

/-! Doubles in values: only of doubles that are given themselves is it asked whether they are
numbers, as those made of anything else always are. -/
namespace NotePlot

open Text Numeral

variable {v : Value} {x : Float} {n : Number}

/-- The double that a text spells, as it is rounded. -/
def doubleInText (cs : List Char) : Outcome (Option Float) :=
  let cs := trim cs
  if cs.isEmpty then .ok (some 0.0)
  else match Numeral.read? cs with
    | some n => .ok (some n.toFloat)
    | none =>
      match Numeral.hexadecimal? cs with
      | some n => (floatOfInt n).map some
      | none =>
        let word := String.ofList cs
        if word = "Infinity" ∨ word = "+Infinity" then .ok (some (1.0 / 0.0))
        else if word = "-Infinity" then .ok (some (-(1.0 / 0.0)))
        else .ok none

/-- The double in a value, where a double that is no number counts as none. -/
def Value.double : Value → Outcome (Option Float)
  | scalar (.bool b) => .ok (some (if b then 1.0 else 0.0))
  | scalar (.int n) => (floatOfInt n).map some
  | scalar (.float x) => .ok (if x.isNaN then none else some x)
  | scalar (.text s) => doubleInText s.toList
  | _ => .ok none

theorem map_val_of? (x : Float) :
    (Number.of? x).map Number.val = if x.isNaN then none else some x := by
  cases h : x.isNaN with
  | false =>
    rw [Number.of?_of_isNaN h]
    rfl
  | true =>
    have hnone : Number.of? x = none := dif_neg (by rw [h]; exact Bool.noConfusion)
    rw [hnone]
    rfl

theorem map_val_floatOfInt (i : Int) :
    ((floatOfInt i).map Number.of?).map (Option.map Number.val) = (floatOfInt i).map some := by
  by_cases h : IsBeyondDoubles i
  · rw [floatOfInt_of_isBeyondDoubles h]
    rfl
  · rw [floatOfInt_of_not h]
    change Except.ok ((Number.of? _).map _) = _
    rw [Number.of?_of_isNaN (Rounded.isNaN_ofInt i)]
    rfl

theorem map_val_numberInText (cs : List Char) :
    (numberInText cs).map (Option.map Number.val) = doubleInText cs := by
  unfold numberInText doubleInText
  by_cases ht : (trim cs).isEmpty
  · simp only [if_pos ht]
    rfl
  · simp only [if_neg ht]
    cases hd : read? (trim cs) with
    | some n =>
      simp only [Number.of?_of_isNaN n.isNaN_toFloat]
      rfl
    | none =>
      cases hx : hexadecimal? (trim cs) with
      | some i => exact map_val_floatOfInt i
      | none =>
        dsimp only
        split
        · rfl
        · split <;> rfl

namespace Value

/-- The number in a value is the double in it. -/
theorem map_val_number (v : Value) : v.number.map (Option.map Number.val) = v.double := by
  cases v with
  | scalar s =>
    cases s with
    | bool b => cases b <;> rfl
    | int i => exact map_val_floatOfInt i
    | text s => exact map_val_numberInText s.toList
    | float x => exact congrArg Except.ok (map_val_of? x)
    | _ => rfl
  | _ => rfl

theorem double_of_number (h : v.number = .ok (some n)) : v.double = .ok (some n.val) := by
  rw [← map_val_number, h]
  rfl

theorem isNaN_of_double (h : v.double = .ok (some x)) : x.isNaN = false := by
  rw [← map_val_number] at h
  cases hn : v.number with
  | error failure =>
    rw [hn] at h
    cases h
  | ok n? =>
    rw [hn] at h
    cases n? with
    | none => cases h
    | some n =>
      cases h
      exact n.isNumber

end Value
end NotePlot
