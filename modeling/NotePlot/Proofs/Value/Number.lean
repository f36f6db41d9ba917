import NotePlot.Clause.Condition
import Mathlib.Data.Prod.Lex

/-! The order of numbers: any two doubles that are numbers compare in exactly one way, infinities
and the two zeros included, as they all lie in one line. -/
namespace NotePlot

open Float.Model

namespace UnpackedOrder

/-- Where a number lies among all others: first by its sign and by whether it is infinite, then by
its exponent and then by its significand, of which both count downward below zero. -/
def key : UnpackedFloat → ℤ ×ₗ ℤ ×ₗ ℤ
  | .infinity .positive => toLex (2, toLex (0, 0))
  | .finite .positive m e _ => toLex (1, toLex (e, m))
  | .zero _ => toLex (0, toLex (0, 0))
  | .finite .negative m e _ => toLex (-1, toLex (-e, -m))
  | .infinity .negative => toLex (-2, toLex (0, 0))
  | .notANumber => toLex (3, toLex (0, 0))

theorem compare_toLex (s a b c d : ℤ) :
    compare (toLex (s, toLex (a, b))) (toLex (s, toLex (c, d))) =
      (compare a c).then (compare b d) := by
  rw [Prod.Lex.compare_def]
  change (compare s s).then _ = _
  rw [compare_eq_iff_eq.mpr rfl]
  rfl

theorem compare_natCast (m n : Nat) : compare (m : ℤ) n = compare m n := by
  rw [Int.compare_eq_ite_lt, Nat.compare_eq_ite_lt]
  simp only [Int.ofNat_lt]

theorem compare_neg_neg (a b : ℤ) : compare (-a) (-b) = compare b a := by
  rw [Int.compare_eq_ite_lt, Int.compare_eq_ite_lt]
  simp only [Int.neg_lt_neg_iff]

/-- Whatever is a number lies somewhere to every other. -/
theorem compare_eq_key {x y : UnpackedFloat} (hx : x.isNaN = false) (hy : y.isNaN = false) :
    x.compare y = some (compare (key x) (key y)) := by
  -- signs decide, unless both are zeros or finite and of one sign
  cases x with
  | notANumber => cases hx
  | infinity s =>
    cases y with
    | notANumber => cases hy
    | infinity t => cases s <;> cases t <;> rfl
    | zero t => cases s <;> rfl
    | finite t => cases s <;> cases t <;> rfl
  | zero s =>
    cases y with
    | notANumber => cases hy
    | infinity t => cases t <;> rfl
    | zero t => rfl
    | finite t => cases t <;> rfl
  | finite s m e hm =>
    cases y with
    | notANumber => cases hy
    | infinity t => cases s <;> cases t <;> rfl
    | zero t => cases s <;> rfl
    | finite t n f hn =>
      cases s with
      | positive =>
        cases t with
        | positive =>
          change _ = some (compare (toLex ((1 : ℤ), toLex (e, (m : ℤ))))
            (toLex (1, toLex (f, (n : ℤ)))))
          rw [compare_toLex, compare_natCast]
          rfl
        | negative => rfl
      | negative =>
        cases t with
        | positive => rfl
        | negative =>
          change _ = some (compare (toLex ((-1 : ℤ), toLex (-e, -(m : ℤ))))
            (toLex (-1, toLex (-f, -(n : ℤ)))))
          rw [compare_toLex, compare_neg_neg, compare_neg_neg, compare_natCast,
            ← Int.compare_swap, ← Nat.compare_swap, ← Ordering.swap_then]
          rfl

end UnpackedOrder

/-- Where a number lies among all others. -/
def Number.rank (n : Number) : ℤ ×ₗ ℤ ×ₗ ℤ := UnpackedOrder.key n.val.toModel.unpack

namespace Condition

variable {a b : Number}

theorem lt_iff_compare {x y : Float} :
    x < y ↔ x.toModel.unpack.compare y.toModel.unpack = some .lt :=
  decide_eq_true_iff.trans beq_iff_eq

theorem beq_iff_compare {x y : Float} :
    (x == y) ↔ x.toModel.unpack.compare y.toModel.unpack = some .eq := by
  change (x.toModel.unpack.compare y.toModel.unpack == some .eq) = true ↔ _
  exact beq_iff_eq

theorem le_iff_compare {x y : Float} :
    x ≤ y ↔ (x.toModel.unpack.compare y.toModel.unpack).any Ordering.isLE :=
  decide_eq_true_iff

theorem compare_unpack_eq_rank (a b : Number) :
    a.val.toModel.unpack.compare b.val.toModel.unpack = some (compare a.rank b.rank) :=
  UnpackedOrder.compare_eq_key a.isNumber b.isNumber

theorem compareNumbers_eq_rank (a b : Number) : compareNumbers a b = compare a.rank b.rank := by
  simp only [compareNumbers, lt_iff_compare, beq_iff_compare, compare_unpack_eq_rank]
  cases compare a.rank b.rank <;> rfl

/-- Numbers compare as the doubles behind them. -/
theorem compare_unpack (a b : Number) :
    a.val.toModel.unpack.compare b.val.toModel.unpack = some (compareNumbers a b) := by
  rw [compare_unpack_eq_rank, compareNumbers_eq_rank]

theorem compareNumbers_swap (a b : Number) : compareNumbers b a = (compareNumbers a b).swap := by
  rw [compareNumbers_eq_rank, compareNumbers_eq_rank]
  exact Std.OrientedCmp.eq_swap

theorem compareNumbers_eq_lt_iff : compareNumbers a b = .lt ↔ a.val < b.val := by
  rw [lt_iff_compare, compare_unpack, Option.some.injEq]

theorem compareNumbers_eq_eq_iff : compareNumbers a b = .eq ↔ a.val == b.val := by
  rw [beq_iff_compare, compare_unpack, Option.some.injEq]

theorem compareNumbers_eq_gt_iff : compareNumbers a b = .gt ↔ b.val < a.val := by
  rw [← compareNumbers_eq_lt_iff, compareNumbers_swap a b]
  cases compareNumbers a b <;> decide

theorem val_le_iff : a.val ≤ b.val ↔ compareNumbers a b ≠ .gt := by
  rw [le_iff_compare, compare_unpack]
  cases compareNumbers a b <;> decide

theorem val_le_iff_swap : b.val ≤ a.val ↔ compareNumbers a b ≠ .lt := by
  rw [val_le_iff, compareNumbers_swap a b]
  cases compareNumbers a b <;> decide

end Condition

namespace Number

variable {a b : Number}

theorem val_le_iff_rank : a.val ≤ b.val ↔ a.rank ≤ b.rank := by
  rw [Condition.val_le_iff, Condition.compareNumbers_eq_rank, ne_eq, compare_gt_iff_gt, not_lt]

theorem val_lt_iff_rank : a.val < b.val ↔ a.rank < b.rank := by
  rw [← Condition.compareNumbers_eq_lt_iff, Condition.compareNumbers_eq_rank, compare_lt_iff_lt]

theorem val_le_refl (a : Number) : a.val ≤ a.val := val_le_iff_rank.mpr (le_refl _)

theorem val_le_trans (a b c : Number) (hab : a.val ≤ b.val) (hbc : b.val ≤ c.val) :
    a.val ≤ c.val := by
  rw [val_le_iff_rank] at hab hbc ⊢
  exact hab.trans hbc

theorem val_le_of_lt (h : a.val < b.val) : a.val ≤ b.val :=
  val_le_iff_rank.mpr (val_lt_iff_rank.mp h).le

theorem val_le_of_not_lt (h : ¬ b.val < a.val) : a.val ≤ b.val := by
  rw [val_lt_iff_rank] at h
  exact val_le_iff_rank.mpr (not_lt.mp h)

end Number
end NotePlot
