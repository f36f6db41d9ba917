import NotePlot.Value.Written
import NotePlot.Value.Kind
import NotePlot.Decimal.Numeral
import NotePlot.Text.Basic
import NotePlot.Text.LetterCase
/-! Coercion: values of settings, as files and environments give them, made into what is wanted. -/
namespace NotePlot

inductive SettingKind
  | integer
  | real
  | bool
  | text
  | list
  /-- Whatever is given. -/
  | any

namespace SettingKind

open Text

def fault {α : Type} (f : SettingFault) : Outcome α := .error (.setting f)

/-- The integer part of a double. -/
def wholePart (x : Float) : Outcome Value :=
  if x.isNaN then fault (.range .notANumber)
  else if x.isInf then .error .overflow
  else .ok (.scalar (.int (Binary.ofFloat x).truncate))

/-- The number that a text set by hand spells; `shown` is what a report quotes. -/
def spelled (shown : String) (cs : List Char) : Outcome Float :=
  match Numeral.loose? cs with
  | some x => .ok x
  | none => fault (.range (.notANumeral shown))

def spelledText (s : String) : Outcome Float := spelled (quoted s) s.toList

/-- The characters of bytes, of which those beyond ASCII belong to no number. -/
def characters (bytes : List UInt8) : List Char :=
  bytes.map fun b => if b < 0x80 then Char.ofNat b.toNat else '\uFFFD'

/-- The full name of the kind of a value that is no number. -/
def fullKindName : Value → String
  | .scalar (.date _) => "datetime.date"
  | .scalar (.moment ..) => "datetime.datetime"
  | v => v.kindName

def toInteger (v : Value) : Outcome Value :=
  match v with
  | .scalar (.bool b) => fault (.boolean (if b then "True" else "False"))
  | .scalar (.int _) => .ok v
  | .scalar (.float x) => wholePart x
  | .scalar (.text s) => do wholePart (← spelledText s)
  | .scalar (.bytes bs) =>
    match Integer.readShown 10 (quotedBytes bs) (characters bs) with
    | .ok n => .ok (.scalar (.int n))
    | .error f => fault (.range f)
  | _ => fault (.notInteger (fullKindName v))

def toReal (v : Value) : Outcome Value :=
  match v with
  | .scalar (.bool b) => .ok (.scalar (.float (if b then 1.0 else 0.0)))
  | .scalar (.int n) => do return .scalar (.float (← floatOfInt n))
  | .scalar (.float _) => .ok v
  | .scalar (.text s) => do return .scalar (.float (← spelledText s))
  | .scalar (.bytes bs) => do
    return .scalar (.float (← spelled (quotedBytes bs) (characters bs)))
  | _ => .error .wrongKind

/-- The texts that mean yes. -/
def affirmatives : List String := ["true", "1", "yes", "on"]

def toBool (v : Value) : Bool :=
  match v with
  | .scalar (.text s) => affirmatives.contains (lower s)
  | _ => v.isSet

/-- The stretches of a text between commas. -/
def betweenCommas : List Char → List (List Char)
  | [] => [[]]
  | c :: cs =>
    if c = ',' then [] :: betweenCommas cs
    else match betweenCommas cs with
      | [] => [[c]]
      | part :: parts => (c :: part) :: parts

/-- The parts of a text between commas, without blanks around them and without empty ones. -/
def listed (cs : List Char) : List String :=
  (((betweenCommas cs).map trim).filter (!·.isEmpty)).map String.ofList

def toList (v : Value) : Outcome Value :=
  match v.opened with
  | .list _ => .ok v
  | .tuple xs => .ok (.list xs)
  | .scalar (.text s) => .ok (.texts (listed s.toList))
  | _ => fault (.notList v.kindName)

/-- Makes a value of the wanted kind; null stays null under every kind. -/
def coerce (kind : SettingKind) (v : Value) : Outcome Value :=
  if v.isNull then .ok v
  else match kind with
    | integer => toInteger v
    | real => toReal v
    | bool => .ok (.scalar (.bool (toBool v)))
    | text => do return .text (← v.display)
    | list => toList v
    | any => .ok v

end SettingKind
end NotePlot
