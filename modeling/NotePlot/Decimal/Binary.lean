/-! Finite doubles as exact numbers: a sign, a natural significand and a power of two. Decimal
numbers in a limited number of significant digits are rounded as they are. -/
namespace NotePlot

/-- The number `significand * 2 ^ scale`, negated if `negative` is set. -/
structure Binary where
  negative : Bool
  significand : Nat
  scale : Int
deriving DecidableEq, Repr

namespace Binary

/-- The least significand of a number in full precision. -/
def fullSignificand : Nat := 0x10000000000000

/-- The number behind a bit pattern that is neither an infinity nor a NaN. -/
def ofBits (b : UInt64) : Binary :=
  let biased := ((b >>> 52) &&& 0x7FF).toNat
  let fraction := (b &&& 0xFFFFFFFFFFFFF).toNat
  if biased = 0 then ⟨b >>> 63 != 0, fraction, -1074⟩
  else ⟨b >>> 63 != 0, fullSignificand + fraction, (biased : Int) - 1075⟩

def ofFloat (x : Float) : Binary := ofBits x.toBits

def signed (x : Binary) (n : Nat) : Int := if x.negative then -(n : Int) else n

/-- The fraction `numerator / denominator` that the number is, sign apart. -/
def numerator (x : Binary) : Nat := x.significand * Nat.pow 2 x.scale.toNat

def denominator (x : Binary) : Nat := Nat.pow 2 (-x.scale).toNat

/-- The integer part, cut off toward zero. -/
def truncate (x : Binary) : Int := x.signed (x.numerator / x.denominator)

def isIntegral (x : Binary) : Bool := x.numerator % x.denominator == 0

end Binary

/-- The integer nearest to `n / d`, the even one of two that are equally near. -/
def roundHalfEven (n : Int) (d : Nat) : Int :=
  let q := Int.fdiv n d
  let twice := 2 * Int.fmod n d
  if twice < d then q
  else if twice = d then if q % 2 = 0 then q else q + 1
  else q + 1

def Binary.round (x : Binary) : Int := roundHalfEven (x.signed x.numerator) x.denominator

/-- A double in comparison with an integer of any size, without rounding the integer. -/
def compareWithInt (x : Float) (n : Int) : Option Ordering :=
  if x.isNaN then none
  else if x.isInf then some (if x < 0 then .lt else .gt)
  else
    let b := Binary.ofFloat x
    some (compare (b.signed b.numerator) (n * b.denominator))

namespace Significant

/-- How many digits of a number count. -/
def limit : Nat := 28

def isWithin (n : Nat) : Bool := n < Nat.pow 10 limit

/-- The number with zeros for all digits beyond the limit, rounded half to even. A point anywhere
among the digits changes nothing, so this rounds fractions too, by their digits. -/
def round (n : Nat) : Nat :=
  let unit := Nat.pow 10 ((Nat.toDigits 10 n).length - limit)
  (roundHalfEven n unit).toNat * unit

end Significant
end NotePlot
