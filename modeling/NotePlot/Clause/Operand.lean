import NotePlot.Value.Kind
import NotePlot.Calendar.Relative
/-! Operands: what the text on the right of a comparison stands for. -/
namespace NotePlot

/-- An operand with its kind; comparisons are made under that kind. -/
inductive Operand
  | text (s : String)
  | number (n : Number)
  | date (m : Moment)

/-- A reference time, in whatever form it is given, with the way to read it where it is a text. -/
structure Reference where
  value : Value
  phrases : Phrases

inductive OperandKind
  | text
  | number
  | date
deriving DecidableEq

def OperandKind.name : OperandKind → String
  | text => "string"
  | number => "number"
  | date => "date"

namespace Operand

open Text

def kind : Operand → OperandKind
  | text _ => .text
  | number _ => .number
  | date _ => .date

def value : Operand → Value
  | text s => .text s
  | number n => .scalar (.float n.val)
  | date m => .scalar (.moment m none)

/-- The day of a reference time; only a value that holds a moment has one. -/
def dayOf (now : Reference) : Outcome Date := do
  match ← now.value.moment now.phrases with
  | some m => return m.date
  | none => throw .partMissing

/-- The midnight that a relative date stands for, if the text is one. -/
def relative? (now : Reference) (cs : List Char) : Outcome (Option Moment) := do
  let day ← dayOf now
  match ← Relative.read cs with
  | some r => return some (.midnight (← r.resolve day))
  | none => return none

/-- The text between two quotes of the same kind. -/
def unquoted? (cs : List Char) : Option (List Char) :=
  match cs with
  | q :: rest =>
    if (q = '\'' ∨ q = '"') ∧ rest.getLast? = some q then some rest.dropLast else none
  | [] => none

def isDayName (lower : List Char) : Bool :=
  lower = "today".toList || lower = "yesterday".toList

/-- Whether a lower-case text should be tried as a relative date in a field that promises none. -/
def looksRelative (lower : List Char) : Bool :=
  isDayName lower || lower.head? = some '-' || lower.head? = some '+'

/-- A text without quotes, blanks or relative date: a day, a number, or just a text. -/
def ofPlain (cs : List Char) : Outcome Operand :=
  match (leadingMoment? cs).join with
  | some m => .ok (.date m)
  | none => do
    match ← numberInText cs with
    | some n => return .number n
    | none => return .text (String.ofList cs)

/-- Reads an operand. Quotes make a text of anything; a field of dates reads zero as today, and
tries every other text as a relative date first. -/
def read (now : Reference) (dateField : Bool) (token : String) : Outcome Operand := do
  let cs := trim token.toList
  match unquoted? cs with
  | some inner => return .text (String.ofList inner)
  | none =>
    let lower := lowerChars cs
    if dateField ∧ (cs = ['0'] ∨ lower = "today".toList) then
      return .date (.midnight (← dayOf now))
    let moment ← if dateField || looksRelative lower then relative? now cs else pure none
    match moment with
    | some m => return .date m
    | none => ofPlain cs

end Operand
end NotePlot
