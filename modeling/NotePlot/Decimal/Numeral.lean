import NotePlot.Text.Basic
import NotePlot.Failure
/-! Numerals: the texts that denote numbers, and the doubles nearest to these numbers; integers set
by hand, in base ten or in a base that is a power of two. -/
namespace NotePlot

/-- The parts of a decimal numeral, in the digits of any script. -/
structure Numeral where
  negative : Bool
  whole : List Char
  fraction : List Char
  exponent : Int
deriving DecidableEq

namespace Numeral

open Text

def sign : List Char → Bool × List Char
  | '-' :: cs => (true, cs)
  | '+' :: cs => (false, cs)
  | cs => (false, cs)

/-- The whole rest of a numeral after its digits: nothing, or a signed exponent. -/
def exponent? : List Char → Option Int
  | [] => some 0
  | c :: cs =>
    if c = 'e' ∨ c = 'E' then
      let (negative, ds) := sign cs
      (number? ds).map fun n => if negative then -(n : Int) else n
    else none

/-- A sign, digits with at most one point among or around them, and an exponent; sign and exponent
may be missing, the digits on one side of the point too. -/
def read? (cs : List Char) : Option Numeral :=
  let (negative, cs) := sign cs
  let whole := cs.takeWhile isDigit
  let (fraction, rest) := match cs.dropWhile isDigit with
    | '.' :: cs => (cs.takeWhile isDigit, cs.dropWhile isDigit)
    | cs => ([], cs)
  if whole.isEmpty && fraction.isEmpty then none
  else (exponent? rest).map fun e => ⟨negative, whole, fraction, e⟩

/-- The double nearest to the number denoted; beyond the greatest one an infinity. -/
def toFloat (n : Numeral) : Float :=
  let e := n.exponent - n.fraction.length
  let x := Float.ofScientific (numberOf (n.whole ++ n.fraction)) (e < 0) e.natAbs
  if n.negative then -x else x

/-- The number behind a sign-free hexadecimal numeral. -/
def hexadecimal? : List Char → Option Nat
  | '0' :: x :: ds =>
    if (x = 'x' ∨ x = 'X') ∧ !ds.isEmpty ∧ ds.all isHexDigit then
      some (ofDigits 16 (ds.map hexDigit))
    else none
  | _ => none

/-- A numeral as people set it by hand: a lone underscore may stand between two digits. -/
def joinDigits? : List Char → Option (List Char)
  | [] => some []
  | c :: '_' :: d :: cs =>
    if isDigit c && isDigit d then (joinDigits? (d :: cs)).map (c :: ·) else none
  | c :: cs => if c = '_' then none else (joinDigits? cs).map (c :: ·)

/-- What counts as blank around a numeral set by hand. -/
def isMargin (c : Char) : Bool := isBlank c && !(28 ≤ c.toNat && c.toNat ≤ 31)

def withoutMargins (cs : List Char) : List Char :=
  ((cs.dropWhile isMargin).reverse.dropWhile isMargin).reverse

/-- Reads a numeral set by hand: blanks around it are ignored, and infinities and NaN may be
spelled out in letters of either case. -/
def loose? (cs : List Char) : Option Float :=
  let cs := withoutMargins cs
  let (negative, word) := sign cs
  let name := String.ofList (word.map Char.toLower)
  if name = "inf" ∨ name = "infinity" then some (if negative then -(1.0 / 0.0) else 1.0 / 0.0)
  else if name = "nan" then some (0.0 / 0.0)
  else (joinDigits? cs).bind fun cs => (read? cs).map toFloat

end Numeral

namespace Integer

open Text

/-- The number that digits denote, unless they are too many. -/
def ofDigits (ds : List Char) : Except RangeFault Nat :=
  if mostDigits < ds.length then .error (.numeralTooLong ds.length) else .ok (numberOf ds)

/-- The digit in base sixteen or less that a character stands for. -/
def digitIn? (base : Nat) (c : Char) : Option Nat :=
  let d := if isHexDigit c then some (hexDigit c) else digit? c
  d.filter (· < base)

/-- What may stand between sign and digits to tell the base. -/
def withoutPrefix (base : Nat) (cs : List Char) : List Char :=
  let letters := match base with
    | 2 => ['b', 'B']
    | 8 => ['o', 'O']
    | 16 => ['x', 'X']
    | _ => []
  match cs with
  | '0' :: c :: '_' :: ds => if letters.contains c then ds else cs
  | '0' :: c :: ds => if letters.contains c then ds else cs
  | _ => cs

/-- Digits without the lone underscores between them. -/
def joined? : List Char → Option (List Char)
  | [] | ['_'] => none
  | [c] => some [c]
  | '_' :: _ => none
  | c :: '_' :: cs => (joined? cs).map (c :: ·)
  | c :: cs => (joined? cs).map (c :: ·)

/-- Reads digits to the end. Only in base ten may they be too many. -/
def magnitude (base : Nat) (shown : String) (cs : List Char) : Except RangeFault Nat :=
  let isDigit (c : Char) : Bool := (digitIn? base c).isSome || c = '_'
  match joined? (cs.takeWhile isDigit) with
  | none => .error (.notAnInteger base shown)
  | some ds =>
    if base = 10 ∧ mostDigits < ds.length then .error (.numeralTooLong ds.length)
    else if !(cs.dropWhile isDigit).isEmpty then .error (.notAnInteger base shown)
    else .ok (Text.ofDigits base (ds.map fun d => (digitIn? base d).getD 0))

/-- Reads an integer with blanks around it or not; `shown` is what a report quotes. -/
def readShown (base : Nat) (shown : String) (cs : List Char) : Except RangeFault Int := do
  let (negative, cs) := Numeral.sign (Numeral.withoutMargins cs)
  let n ← magnitude base shown (withoutPrefix base cs)
  return if negative then -(n : Int) else n

def read (base : Nat) (cs : List Char) : Except RangeFault Int :=
  readShown base (quoted (String.ofList cs)) cs

end Integer
end NotePlot
