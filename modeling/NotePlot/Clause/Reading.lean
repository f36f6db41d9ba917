import NotePlot.Text.LetterCase
import NotePlot.Clause.Condition
/-! Clauses: the texts of conditions. A clause is a field, a comparison sign and an operand, or a
field and two operands as the bounds of a range. The names of some fields promise dates. -/
namespace NotePlot

/-- Fields hold dates if their lower-case name is on a list, or ends as a name on another list. -/
structure DateFields where
  names : List String
  suffixes : List String

namespace DateFields

def usual : DateFields where
  names := ["date", "scheduled", "due", "start", "end", "created", "modified", "datecreated",
    "datemodified"]
  suffixes := ["date", "at", "on"]

def includes (fs : DateFields) (field : String) : Bool :=
  let lower := Text.lowerChars field.toList
  fs.names.any (fun name => name.toList == lower) ||
    fs.suffixes.any fun suffix => suffix.toList.isSuffixOf lower

end DateFields

namespace Clause

open Text

/-- The characters of a field name before a range; of the letters beyond ASCII, four that are
variants of i, k and s are among them. -/
def isFieldChar (c : Char) : Bool :=
  c.isAlphanum || c = '_' || c = '.' || c = '-' || c.toNat = 0x130 || c.toNat = 0x131 ||
    c.toNat = 0x17F || c.toNat = 0x212A

/-- What follows a word in letters of either case. -/
def afterWord? (word cs : List Char) : Option (List Char) :=
  if (cs.take word.length).map Char.toLower = word then some (cs.drop word.length) else none

/-- The upper bound of a range, if the lower one ends here: blanks, the word "and", blanks, and a
rest on one line. -/
def upperBound? (cs : List Char) : Option (List Char) := do
  if (cs.takeWhile isBlank).isEmpty then none
  let rest ← afterWord? "and".toList (cs.dropWhile isBlank)
  let bound := rest.dropWhile isBlank
  if (rest.takeWhile isBlank).isEmpty || bound.isEmpty || bound.contains '\n' then none
  else some bound

/-- The bounds of a range, the lower one as long as it can be on one line. -/
def bounds? : List Char → Option (List Char × List Char)
  | [] => none
  | c :: cs =>
    if c = '\n' then none
    else match bounds? cs with
      | some (lower, upper) => some (c :: lower, upper)
      | none => (upperBound? cs).map ([c], ·)

/-- The bounds after some blanks, as many of them as possible left out. -/
def boundsAfterBlanks? : List Char → Option (List Char × List Char)
  | [] => none
  | c :: cs =>
    if isBlank c then (boundsAfterBlanks? cs).or (bounds? cs) else none

/-- A field and the bounds of a range. -/
def range? (cs : List Char) : Option (List Char × List Char × List Char) := do
  let field := cs.takeWhile isFieldChar
  let rest := cs.dropWhile isFieldChar
  if field.isEmpty || (rest.takeWhile isBlank).isEmpty then none
  let rest ← afterWord? "between".toList (rest.dropWhile isBlank)
  let (lower, upper) ← boundsAfterBlanks? rest
  return (field, lower, upper)

/-- The comparison sign that a text begins with, the longer one of two. -/
def sign? : List Char → Option (Operator × List Char)
  | '=' :: '=' :: cs => some (.eq, cs)
  | '!' :: '=' :: cs => some (.ne, cs)
  | '>' :: '=' :: cs => some (.ge, cs)
  | '<' :: '=' :: cs => some (.le, cs)
  | '>' :: cs => some (.gt, cs)
  | '<' :: cs => some (.lt, cs)
  | _ => none

/-- The texts before and after the first comparison sign. -/
def splitAtSign? : List Char → Option (List Char × Operator × List Char)
  | [] => none
  | c :: cs =>
    match sign? (c :: cs) with
    | some (op, rest) => some ([], op, rest)
    | none => (splitAtSign? cs).map fun (left, op, right) => (c :: left, op, right)

/-- A comparison has one sign only. -/
def comparison? (cs : List Char) : Option (List Char × Operator × List Char) := do
  let (left, op, right) ← splitAtSign? cs
  if (splitAtSign? right).isSome then none else some (left, op, right)

/-- The kind of a range: dates if one of its bounds is a date, else the kind of the lower one. -/
def rangeKind (lower upper : Operand) : OperandKind :=
  if upper.kind = .date then .date else lower.kind

/-- Reads a clause. The form of a range goes first, so that its bounds may hold signs. -/
def read (now : Reference) (isDateField : String → Bool) (clause : String) : Outcome Condition := do
  let cs := trim clause.toList
  match range? cs with
  | some (field, lower, upper) =>
    let field := String.ofList field
    let lower ← Operand.read now (isDateField field) (String.ofList lower)
    let upper ← Operand.read now (isDateField field) (String.ofList upper)
    Condition.make field .between lower.value (rangeKind lower upper) (some upper.value)
  | none =>
    match comparison? cs with
    | none => throw (.clause (.unreadable clause))
    | some (left, op, right) =>
      let field := strip (String.ofList left)
      if field.isEmpty then throw (.clause (.fieldMissing clause))
      let operand ← Operand.read now (isDateField field) (String.ofList right)
      Condition.make field op operand.value operand.kind none

/-- Whether a clause can be read, and if not, why. Failures of another cause pass through. -/
def check (now : Reference) (clause : String) : Outcome (Option ClauseFault) :=
  match read now DateFields.usual.includes clause with
  | .ok _ => .ok none
  | .error (.clause fault) => .ok (some fault)
  | .error f => .error f

/-- Reads all clauses; the first that cannot be read is reported with its text. -/
def readAll (now : Reference) (isDateField : String → Bool) : List String → Outcome (List Condition)
  | [] => .ok []
  | clause :: rest => do
    let c ← match read now isDateField clause with
      | .error (.clause fault) => throw (.condition clause fault)
      | r => r
    return c :: (← readAll now isDateField rest)

end Clause
end NotePlot
