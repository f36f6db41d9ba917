import NotePlot.Decimal.Binary
/-! The shortest decimal that reads back as a given double, the nearest of those, and the text of
it: where its digits stand around the point, and when an exponent follows. -/
namespace NotePlot

/-- The number `digits * 10 ^ scale`. -/
structure Decimal where
  digits : Nat
  scale : Int
deriving DecidableEq, Repr

namespace Decimal

/-- How `a * 10 ^ i` compares with `b * 2 ^ j`, in natural numbers. -/
def compareBinary (a : Nat) (i : Int) (b : Nat) (j : Int) : Ordering :=
  compare (a * Nat.pow 10 i.toNat * Nat.pow 2 (-j).toNat)
    (b * Nat.pow 2 j.toNat * Nat.pow 10 (-i).toNat)

/-- The gap to the double below is half the gap to the double above where the significand is at
its least. -/
def narrowBelow (x : Binary) : Bool :=
  x.significand == Binary.fullSignificand && x.scale != -1074

/-- A decimal reads back as `x` if it lies between the points half-way to the neighbours of `x`;
these points belong to `x` if its significand is even. -/
def readsBack (x : Binary) (d : Decimal) : Bool :=
  let even := x.significand % 2 == 0
  let low := 4 * x.significand - (if narrowBelow x then 1 else 2)
  let high := 4 * x.significand + 2
  (match compareBinary d.digits d.scale low (x.scale - 2) with
    | .gt => true | .eq => even | .lt => false) &&
  (match compareBinary d.digits d.scale high (x.scale - 2) with
    | .lt => true | .eq => even | .gt => false)

/-- The least power of ten above a number that is not zero. -/
def magnitude (x : Binary) : Int :=
  let least := Int.fdiv ((x.significand.log2 + x.scale) * 30103) 100000
  let isAbove (k : Int) : Bool := compareBinary 1 k x.significand x.scale == .gt
  if isAbove least then least else if isAbove (least + 1) then least + 1 else least + 2

/-- The multiple of `10 ^ scale` next below a number. -/
def below (x : Binary) (scale : Int) : Nat :=
  x.numerator * Nat.pow 10 (-scale).toNat / (x.denominator * Nat.pow 10 scale.toNat)

/-- Of the two multiples of `10 ^ scale` around a number, those that read back; of both the nearer
one, and the even one if both are equally near. -/
def onGrid? (x : Binary) (scale : Int) : Option Decimal :=
  let lo : Decimal := ⟨below x scale, scale⟩
  let hi : Decimal := ⟨below x scale + 1, scale⟩
  match readsBack x lo, readsBack x hi with
  | true, true =>
    match compareBinary (lo.digits + hi.digits) scale (2 * x.significand) x.scale with
    | .gt => some lo
    | .lt => some hi
    | .eq => some (if lo.digits % 2 = 0 then lo else hi)
  | true, false => some lo
  | false, true => some hi
  | false, false => none

/-- The number itself, which always has a finite decimal. -/
def exact (x : Binary) : Decimal :=
  if 0 ≤ x.scale then ⟨x.numerator, 0⟩
  else ⟨x.significand * Nat.pow 5 (-x.scale).toNat, x.scale⟩

/-- Moves up to `fuel` zeros from the end of the digits into the scale. -/
def dropZeros : Nat → Decimal → Decimal
  | 0, d => d
  | fuel + 1, d =>
    if d.digits ≠ 0 ∧ d.digits % 10 = 0 then dropZeros fuel ⟨d.digits / 10, d.scale + 1⟩ else d

/-- One digit is tried first, then two, up to seventeen, which always suffice. -/
def shortest (x : Binary) : Decimal :=
  if x.significand = 0 then ⟨0, 0⟩
  else
    let k := magnitude x
    let found := (List.range 17).findSome? fun (n : Nat) => onGrid? x (k - 1 - n)
    dropZeros 400 (found.getD (exact x))

end Decimal

/-- A leading digit of worth `10 ^ e` is written in place for `from ≤ e < below`, with an exponent
of at least `exponentDigits` digits otherwise. -/
structure Layout where
  positionalFrom : Int
  positionalBelow : Int
  exponentDigits : Nat
  infinity : String
  notANumber : String

namespace Layout

/-- Amounts are written in place from a ten-thousandth up to ten thousand million million. -/
def amount : Layout where
  positionalFrom := -4
  positionalBelow := 16
  exponentDigits := 2
  infinity := "inf"
  notANumber := "nan"

variable (l : Layout)

def exponent (e : Int) : List Char :=
  let ds := Nat.toDigits 10 e.natAbs
  'e' :: (if e < 0 then '-' else '+') ::
    (List.replicate (l.exponentDigits - ds.length) '0' ++ ds)

/-- Every number in place has a digit on each side of the point. -/
def digits (d : Decimal) : List Char :=
  let ds := Nat.toDigits 10 d.digits
  let point : Int := ds.length + d.scale
  if l.positionalFrom < point ∧ point ≤ l.positionalBelow then
    if point ≤ 0 then '0' :: '.' :: (List.replicate (-point).toNat '0' ++ ds)
    else if ds.length ≤ point.toNat then
      ds ++ List.replicate (point.toNat - ds.length) '0' ++ ['.', '0']
    else ds.take point.toNat ++ '.' :: ds.drop point.toNat
  else
    ds.take 1 ++ (if ds.length = 1 then [] else '.' :: ds.drop 1) ++ l.exponent (point - 1)

def write (x : Float) : String :=
  if x.isNaN then l.notANumber
  else
    let b := Binary.ofFloat x
    let sign := if b.negative then "-" else ""
    if x.isInf then sign ++ l.infinity
    else sign ++ String.ofList (l.digits (Decimal.shortest b))

end Layout

example : Layout.amount.write 0.1 = "0.1" := by decide +kernel
example : Layout.amount.write (0.1 + 0.2) = "0.30000000000000004" := by decide +kernel
example : Layout.amount.write 1e16 = "1e+16" := by decide +kernel
example : Layout.amount.write 123456789012345680 = "1.2345678901234568e+17" := by decide +kernel
example : Layout.amount.write 0.0001 = "0.0001" := by decide +kernel
example : Layout.amount.write (-0.00001) = "-1e-05" := by decide +kernel
example : Layout.amount.write (-0.0) = "-0.0" := by decide +kernel

end NotePlot
