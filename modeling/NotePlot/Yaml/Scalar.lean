import NotePlot.Yaml.Cursor
import NotePlot.Yaml.Tag
import NotePlot.Yaml.Timestamp
import NotePlot.Decimal.Numeral
import NotePlot.Text.LetterCase
import NotePlot.Value.Kind
/-! Scalars: the values that texts in a YAML document stand for, by their tags. -/
namespace NotePlot.Yaml

namespace Binary

/-- The six bits that a character stands for; any other character says nothing. -/
def sextet? (c : Char) : Option Nat :=
  if 'A' ≤ c ∧ c ≤ 'Z' then some (c.toNat - 65)
  else if 'a' ≤ c ∧ c ≤ 'z' then some (c.toNat - 71)
  else if '0' ≤ c ∧ c ≤ '9' then some (c.toNat + 4)
  else if c = '+' then some 62
  else if c = '/' then some 63
  else none

/-- How far a group has been read. -/
structure Group where
  /-- How many characters of it have been read. -/
  length : Nat := 0
  /-- The bits that no byte has taken yet. -/
  bits : Nat := 0
  /-- The equal signs since the last of the characters. -/
  pads : Nat := 0

/-- Adds the bits of a character to a group, which may complete a byte. -/
def Group.add (g : Group) (v : Nat) : Option UInt8 × Group :=
  match g.length with
  | 0 => (none, { length := 1, bits := v })
  | 1 => (some (g.bits * 4 + v / 16).toUInt8, { length := 2, bits := v % 16 })
  | 2 => (some (g.bits * 16 + v / 4).toUInt8, { length := 3, bits := v % 4 })
  | _ => (some (g.bits * 64 + v).toUInt8, {})

/-- Reads bytes up to the equal signs that complete a group, or to the end, where no group may have
been begun. -/
def readFrom? (g : Group) : List Char → Option (List UInt8)
  | [] => if g.length = 0 then some [] else none
  | c :: cs =>
    if c = '=' then
      if g.length < 2 then readFrom? g cs
      else if 4 ≤ g.length + g.pads + 1 then some []
      else readFrom? { g with pads := g.pads + 1 } cs
    else match sextet? c with
      | none => readFrom? g cs
      | some v =>
        let (byte, g) := g.add v
        (readFrom? g cs).map (byte.toList ++ ·)

/-- Reads bytes from a text in ASCII. -/
def read? (cs : List Char) : Option (List UInt8) :=
  if cs.all fun c => c.toNat < 0x80 then readFrom? {} cs else none

end Binary

/-- The tag that a text has by its form. A line feed after it does not count, except after
nothing. -/
def Plain.tag (s : String) : Tag :=
  let cs := withoutFinalFeed s.toList
  let form := String.ofList cs
  if cs.isEmpty then if s.isEmpty then .null else .str
  else if isBool form then .bool
  else if isFloat cs then .float
  else if isInt cs then .int
  else if form = "<<" then .merge
  else if isNull form then .null
  else if Timestamp.isPlain cs then .timestamp
  else if form = "=" then .value
  else if ["!", "&", "*"].contains form then .other
  else .str

namespace Scalar

open Text

def failed {α : Type} (fault : RangeFault) : Read α := .error (.failure (.range fault))

/-- Something that is out of no range, or a failure. -/
def within {α : Type} (r : Except RangeFault α) : Read α := r.mapError fun f => .failure (.range f)

/-- A text in lower case that is a truth value. -/
def bool (s : String) : Read Scalar :=
  let word := lower s
  if ["yes", "true", "on"].contains word then .ok (.bool true)
  else if ["no", "false", "off"].contains word then .ok (.bool false)
  else .error (.failure .unknownName)

/-- What is left of a number without the underscores in it. -/
def withoutJoins (cs : List Char) : List Char := cs.filter (· ≠ '_')

/-- The stretches of a text between colons. -/
def betweenColons : List Char → List (List Char)
  | [] => [[]]
  | c :: cs =>
    if c = ':' then [] :: betweenColons cs
    else match betweenColons cs with
      | [] => [[c]]
      | part :: parts => (c :: part) :: parts

/-- A number in base sixty with its digits in base ten, which may have signs of their own. -/
def sexagesimal : List (List Char) → Int → Except RangeFault Int
  | [], n => .ok n
  | part :: parts, n => do sexagesimal parts (60 * n + (← Integer.read 10 part))

/-- The integer that a text spells after its sign. What comes before it tells its base. -/
def unsignedInt (cs : List Char) : Read Int :=
  match cs with
  | [] => .error (.failure .emptyNumeral)
  | ['0'] => .ok 0
  | '0' :: 'b' :: ds => within (Integer.read 2 ds)
  | '0' :: 'x' :: ds => within (Integer.read 16 ds)
  | '0' :: _ => within (Integer.read 8 cs)
  | _ => within (if cs.contains ':' then sexagesimal (betweenColons cs) 0 else Integer.read 10 cs)

def int (s : String) : Read Scalar :=
  match withoutJoins s.toList with
  | [] => .error (.failure .emptyNumeral)
  | cs => do
    let n ← unsignedInt (Plain.unsigned cs)
    return .int (if cs.head? = some '-' then -n else n)

def real (cs : List Char) : Read Float :=
  match Numeral.loose? cs with
  | some x => .ok x
  | none => failed (.notANumeral (quoted (String.ofList cs)))

def reals : List (List Char) → Read (List Float)
  | [] => .ok []
  | part :: parts => do
    let x ← real part
    return x :: (← reals parts)

/-- Digits in base sixty as one double, the least significant first. Each counts as often as the
double nearest to its unit says; a unit beyond the greatest double has none. -/
def sixties (unit : Nat) : List Float → Float → Read Float
  | [], sum => .ok sum
  | x :: xs, sum => do
    let times ← (floatOfInt unit).mapError .failure
    sixties (unit * 60) xs (sum + x * times)

/-- The text of a double after its sign, in small letters. -/
def floatBody (s : String) : List Char := Plain.unsigned (lowerChars (withoutJoins s.toList))

/-- Whether a text is the name of NaN. -/
def namesNaN (s : String) : Bool := floatBody s = ".nan".toList

def unsignedFloat (cs : List Char) : Read Float :=
  if cs = ".inf".toList then .ok (1.0 / 0.0)
  else if cs = ".nan".toList then .ok (0.0 / 0.0)
  else if cs.contains ':' then do sixties 1 (← reals (betweenColons cs)).reverse 0.0
  else real cs

def float (s : String) : Read Scalar :=
  match withoutJoins s.toList with
  | [] => .error (.failure .emptyNumeral)
  | cs => do
    let x ← unsignedFloat (floatBody s)
    return .float (if cs.head? = some '-' then -x else x)

def bytes (s : String) : Read Scalar :=
  match Binary.read? s.toList with
  | some bs => .ok (.bytes bs)
  | none => malformed

def timestamp (s : String) : Read Scalar :=
  match Timestamp.read? s.toList with
  | none => .error (.failure .partMissing)
  | some t => within t.scalar

/-- The value of a text under a tag; a tag for collections, or one that only keys have, gives it
none. -/
def ofText (tag : Tag) (s : String) : Read Scalar :=
  match tag with
  | .null => .ok .null
  | .bool => bool s
  | .int => int s
  | .float => float s
  | .binary => bytes s
  | .timestamp => timestamp s
  | .str => .ok (.text s)
  | .merge | .value | .seq | .map | .set | .omap | .pairs | .other => malformed

end Scalar
end NotePlot.Yaml
