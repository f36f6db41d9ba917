import NotePlot.Decimal.Numeral

/-! Doubles nearest to numbers: whatever decimal or integer is rounded, the result is a number. -/
namespace NotePlot

open Float.Model

namespace Rounded

variable {spec : Format} {x y : UnpackedFloat}

/-- What is packed is no number just if all bits of its exponent are set, and one of its mantissa.
-/
theorem isNaN_unpack (b : BitVec spec.numBits) : (UnpackedFloat.unpack spec b).isNaN =
    (decide (UnpackedFloat.unpackExponent b = -1#_) &&
      !decide (UnpackedFloat.unpackMantissa b = 0#_)) := by
  unfold UnpackedFloat.unpack
  dsimp only
  by_cases hall : UnpackedFloat.unpackExponent b = -1#_
  · rw [if_pos hall, decide_eq_true hall, Bool.true_and]
    by_cases hzero : UnpackedFloat.unpackMantissa b = 0#_
    · rw [if_pos hzero, decide_eq_true hzero]
      rfl
    · rw [if_neg hzero, decide_eq_false hzero]
      rfl
  · rw [if_neg hall, decide_eq_false hall, Bool.false_and]
    by_cases hnone : UnpackedFloat.unpackExponent b = 0#_
    · rw [if_pos hnone]
      by_cases hzero : UnpackedFloat.unpackMantissa b = 0#_
      · rw [dif_pos hzero]
        rfl
      · rw [dif_neg hzero]
        rfl
    · rw [if_neg hnone]
      rfl

theorem isNaN_unpack_packComponents (s : UnpackedFloat.Sign) (e : BitVec spec.exponentBits)
    (m : BitVec spec.mantissaBitsWithoutImplicit) :
    (UnpackedFloat.unpack spec (UnpackedFloat.packComponents spec s e m)).isNaN =
      (decide (e = -1#_) && !decide (m = 0#_)) := by
  rw [isNaN_unpack, UnpackedFloat.unpackExponent_packComponents,
    UnpackedFloat.unpackMantissa_packComponents]

/-- Packing makes no number into anything else, nor the other way round. -/
theorem isNaN_unpack_pack (x : UnpackedFloat) :
    (UnpackedFloat.unpack Format.binary64 (UnpackedFloat.pack Format.binary64 x)).isNaN =
      x.isNaN := by
  cases x with
  | notANumber => exact isNaN_unpack_packComponents _ _ _
  | infinity s => exact isNaN_unpack_packComponents _ _ _
  | zero s => exact isNaN_unpack_packComponents _ _ _
  | finite s m e hm =>
    change _ = false
    unfold UnpackedFloat.pack
    dsimp only
    split
    · exact isNaN_unpack_packComponents _ _ _
    next hsmall =>
      split
      · -- the exponent of all ones is left to what is not finite
        generalize (e + Format.binary64.exponentBias +
          Format.binary64.mantissaBitsWithoutImplicit).toNat = biased at hsmall
        have hpower : 2 ^ Format.binary64.exponentBits = 2048 := rfl
        have hexponent : BitVec.ofNat Format.binary64.exponentBits biased ≠ -1#_ := by
          intro h
          have hnat := congrArg BitVec.toNat h
          have hall : (-1#_ : BitVec Format.binary64.exponentBits).toNat = 2047 := rfl
          rw [BitVec.toNat_ofNat, hall, hpower] at hnat
          omega
        rw [isNaN_unpack_packComponents, decide_eq_false hexponent]
        rfl
      · rw [isNaN_unpack_packComponents]
        rfl

theorem isNaN_dite {p : Prop} [Decidable p] {f : p → UnpackedFloat} {g : ¬ p → UnpackedFloat}
    (hf : ∀ h, (f h).isNaN = false) (hg : ∀ h, (g h).isNaN = false) :
    (dite p f g).isNaN = false := by
  by_cases h : p
  · rw [dif_pos h]
    exact hf h
  · rw [dif_neg h]
    exact hg h

theorem isNaN_ite {p : Prop} [Decidable p] (hx : x.isNaN = false) (hy : y.isNaN = false) :
    (if p then x else y).isNaN = false := by
  by_cases h : p
  · rw [if_pos h]
    exact hx
  · rw [if_neg h]
    exact hy

theorem isNaN_round (s : UnpackedFloat.Sign) (m : Nat) (e : Int) (a : UnpackedFloat.Accuracy) :
    (UnpackedFloat.roundWithAccuracy spec s m e a).isNaN = false := by
  unfold UnpackedFloat.roundWithAccuracy
  exact isNaN_dite (fun _ => rfl) fun _ => rfl

theorem isNaN_normalize (m e : Int) (s : UnpackedFloat.Sign) :
    (UnpackedFloat.normalize spec m e s).isNaN = false := by
  unfold UnpackedFloat.normalize
  split
  · exact isNaN_round _ _ _ _
  · rfl
  · exact isNaN_round _ _ _ _

/-- A finite number that is no zero. -/
def IsProper : UnpackedFloat → Bool
  | .finite .. => true
  | _ => false

/-- Only zero times infinity is no number, so no product with a finite number apart from zero. -/
theorem isNaN_mul (hx : x.isNaN = false) (hy : IsProper y) :
    (UnpackedFloat.mul spec x y).isNaN = false := by
  cases y with
  | finite t n f hn =>
    cases x with
    | notANumber => cases hx
    | infinity s | zero s => rfl
    | finite s m e hm => exact isNaN_round _ _ _ _
  | notANumber | infinity t | zero t => cases hy

theorem isNaN_div (hx : x.isNaN = false) (hy : IsProper y) :
    (UnpackedFloat.div spec x y).isNaN = false := by
  cases y with
  | finite t n f hn =>
    cases x with
    | notANumber => cases hx
    | infinity s | zero s => rfl
    | finite s m e hm => exact isNaN_round _ _ _ _
  | notANumber | infinity t | zero t => cases hy

theorem isNaN_ofScientific (m : Nat) (e : Int) :
    (UnpackedFloat.ofScientific spec m e).isNaN = false := by
  unfold UnpackedFloat.ofScientific
  refine isNaN_dite (fun _ => rfl) fun _ => ?_
  refine isNaN_ite rfl (isNaN_ite rfl (isNaN_ite ?_ ?_))
  · exact isNaN_mul rfl rfl
  · exact isNaN_div rfl rfl

theorem isNaN_ofModel_pack (x : UnpackedFloat) : (Float.ofModel (pack x)).isNaN = x.isNaN :=
  isNaN_unpack_pack x

theorem isNaN_mul_float {a b : Float} (ha : a.isNaN = false) (hb : IsProper b.toModel.unpack) :
    (a * b).isNaN = false :=
  (isNaN_ofModel_pack _).trans (isNaN_mul ha hb)

theorem isNaN_div_float {a b : Float} (ha : a.isNaN = false) (hb : IsProper b.toModel.unpack) :
    (a / b).isNaN = false :=
  (isNaN_ofModel_pack _).trans (isNaN_div ha hb)

theorem isNaN_neg_float (a : Float) : (-a).isNaN = a.isNaN := by
  refine (isNaN_ofModel_pack _).trans ?_
  change a.toModel.unpack.neg.isNaN = a.toModel.unpack.isNaN
  cases a.toModel.unpack <;> rfl

theorem isNaN_toFloat (n : UInt64) : n.toFloat.isNaN = false :=
  (isNaN_ofModel_pack _).trans (isNaN_normalize _ _ _)

theorem isProper_power (e : Fin 23) :
    IsProper (Float.exactlyRepresentablePowersOfTen[e]).toModel.unpack := by
  revert e
  decide

/-- Small numbers are made by one operation on doubles, all others in wider significands. -/
theorem isNaN_scientific (m : Nat) (s : Bool) (e : Nat) : (Float.ofScientific m s e).isNaN = false := by
  unfold Float.ofScientific
  split
  next h =>
    have hpower := isProper_power ⟨e, by omega⟩
    dsimp only
    split
    · exact isNaN_div_float (isNaN_toFloat _) hpower
    · exact isNaN_mul_float (isNaN_toFloat _) hpower
  next => exact (isNaN_ofModel_pack _).trans (isNaN_ofScientific _ _)

theorem isNaN_ofInt (n : Int) : (Float.ofInt n).isNaN = false := by
  cases n with
  | ofNat n => exact isNaN_scientific n false 0
  | negSucc n => exact (isNaN_neg_float _).trans (isNaN_scientific _ false 0)

end Rounded

theorem Numeral.isNaN_toFloat (n : Numeral) : n.toFloat.isNaN = false := by
  unfold toFloat
  dsimp only
  split
  · rw [Rounded.isNaN_neg_float]
    exact Rounded.isNaN_scientific _ _ _
  · exact Rounded.isNaN_scientific _ _ _

end NotePlot
