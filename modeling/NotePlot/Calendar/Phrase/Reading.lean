import NotePlot.Calendar.Phrase.Token
import NotePlot.Calendar.Date
import NotePlot.Decimal.Binary
/-! What the pieces of a date phrase say: numbers that may be year, month or day, a time of day, a
day of the week and a time zone. -/
namespace NotePlot.Phrase

open Text

abbrev Token := List Char

/-- The position of a word in a table of names with their short forms. -/
def indexIn (names : List (List String)) (t : Token) : Option Nat :=
  let word := String.ofList (t.map Char.toLower)
  names.findIdx? fun forms => forms.contains word

def weekday? : Token → Option Nat :=
  indexIn [["mon", "monday"], ["tue", "tuesday"], ["wed", "wednesday"], ["thu", "thursday"],
    ["fri", "friday"], ["sat", "saturday"], ["sun", "sunday"]]

/-- Months count from one. -/
def month? (t : Token) : Option Nat :=
  (indexIn [["jan", "january"], ["feb", "february"], ["mar", "march"], ["apr", "april"], ["may"],
    ["jun", "june"], ["jul", "july"], ["aug", "august"], ["sep", "sept", "september"],
    ["oct", "october"], ["nov", "november"], ["dec", "december"]] t).map (· + 1)

/-- The label of a unit of time: hours, minutes, seconds. -/
def unit? : Token → Option Nat :=
  indexIn [["h", "hour", "hours"], ["m", "minute", "minutes"], ["s", "second", "seconds"]]

/-- The half of the day that a word names: false before noon, true after it. -/
def half? (t : Token) : Option Bool := (indexIn [["am", "a"], ["pm", "p"]] t).map (· == 1)

/-- The words and signs that say nothing about a date. -/
def isFiller (t : Token) : Bool :=
  [" ", ".", ",", ";", "-", "/", "'", "at", "on", "and", "ad", "m", "t", "of", "st", "nd", "rd",
    "th"].contains (String.ofList (t.map Char.toLower))

def isUniversal (t : Token) : Bool :=
  ["utc", "gmt", "z"].contains (String.ofList (t.map Char.toLower))

/-- The words for amounts that are no numbers. -/
def isBoundless (t : Token) : Bool :=
  ["inf", "infinity", "nan"].contains (String.ofList (t.map Char.toLower))

/-- Why a phrase cannot be read on. -/
inductive Stop
  /-- It says no date. -/
  | unreadable
  /-- An amount has more digits than its fraction can be told of. -/
  | amountTooLarge
deriving DecidableEq

abbrev Try (α : Type) := Except Stop α

def unreadable {α : Type} : Try α := .error .unreadable

/-- What is not there cannot be read. -/
instance : MonadLift Option (Except Stop) := ⟨fun o => o.elim unreadable .ok⟩

/-- A numeral with a fraction; a fraction of zeros is none. -/
structure Amount where
  whole : Nat
  fraction : List Char

namespace Amount

def read? (t : Token) : Option Amount :=
  match t.span isDigit with
  | ([], _) => none
  | (ds, []) => some ⟨numberOf ds, []⟩
  | (ds, '.' :: fs) => if !fs.isEmpty && fs.all isDigit then some ⟨numberOf ds, fs⟩ else none
  | _ => none

variable (a : Amount)

def isWhole : Bool := numberOf a.fraction == 0

def exceeds (n : Nat) : Bool := n < a.whole || (a.whole == n && !a.isWhole)

/-- The number of sixtieths in the fraction, if it is not zero. The fraction and sixty times it are
rounded to the digits that count, and only then the number is rounded down. -/
def sixtieths : Try (Option Nat) :=
  if !Significant.isWithin a.whole then .error .amountTooLarge
  else if a.isWhole then .ok none
  else
    let digits := Significant.round (60 * Significant.round (numberOf a.fraction))
    .ok (some (digits / Nat.pow 10 a.fraction.length))

end Amount

/-- What has been understood so far. The numbers may be year, month or day; of two of them it may be
known which they are, by their place. -/
structure Reading where
  numbers : List Nat := []
  yearAt : Option Nat := none
  monthAt : Option Nat := none
  /-- A year was given in full. -/
  fullYear : Bool := false
  weekday : Option Nat := none
  hour : Option Nat := none
  minute : Option Nat := none
  second : Option Nat := none
  micros : Option Nat := none
  zone : Option Token := none
  zoneSeconds : Option Int := none

inductive Role
  | unknown
  | year
  | month
deriving DecidableEq

namespace Reading

variable (r : Reading)

def add? (n : Nat) (role : Role) : Option Reading :=
  let place := some r.numbers.length
  let r' := { r with numbers := r.numbers ++ [n] }
  match role with
  | .unknown => some r'
  | .year => if r.yearAt.isSome then none else some { r' with yearAt := place }
  | .month => if r.monthAt.isSome then none else some { r' with monthAt := place }

def addMonth? (m : Nat) : Option Reading := r.add? m .month

/-- A number of three digits or more can only be a year. -/
def addToken? (t : Token) (role : Role) : Option Reading := do
  let n ← shortNumber? t
  if 2 < t.length then Reading.add? { r with fullYear := true } n .year else r.add? n role

/-- A number above a hundred can only be a year; a fraction is cut off. -/
def addAmount? (a : Amount) : Option Reading :=
  if a.exceeds 100 then Reading.add? { r with fullYear := true } a.whole .year
  else r.add? a.whole .unknown

/-- Noon and midnight are the twelfth hour of their halves. -/
def hourIn (hour : Nat) (afternoon : Bool) : Nat :=
  if hour < 12 ∧ afternoon then hour + 12
  else if hour = 12 ∧ !afternoon then 0
  else hour

/-- Seconds with a fraction, of which six digits count. -/
def seconds? (t : Token) : Option (Nat × Nat) :=
  if !t.contains '.' then (shortNumber? t).map (·, 0)
  else match t.span (· != '.') with
    | (ds, _ :: fs) =>
      if fs.contains '.' then none
      else do
        let s ← shortNumber? ds
        let f ← shortNumber? ((fs ++ List.replicate (6 - fs.length) '0').take 6)
        return (s, f)
    | _ => none

/-- Minutes with a fraction, which gives the seconds. -/
def withMinutes (a : Amount) : Try Reading := do
  return { r with minute := some a.whole, second := ← a.sixtieths }

/-- Sets the time by an amount with the label of its unit; the unit after seconds says nothing. -/
def withUnit (t : Token) (a : Amount) (unit : Nat) : Try Reading :=
  match unit with
  | 0 => do
    let minute ← a.sixtieths
    return { r with hour := some a.whole, minute := minute.or r.minute }
  | 1 => r.withMinutes a
  | 2 => do
    let (s, f) ← seconds? t
    return { r with second := some s, micros := some f }
  | _ => .ok r

/-- Whether a number may be a day of the month, as far as month and year are known. -/
def couldBeDay (a : Amount) : Bool :=
  let longest := match r.monthAt.bind (r.numbers[·]?) with
    | none => 31
    | some m => daysInMonth ((r.yearAt.bind (r.numbers[·]?)).getD 2000) m
  1 ≤ a.whole && !a.exceeds longest

/-- A word of up to five capitals after a time names a time zone. -/
def couldBeZone (t : Token) : Bool :=
  r.hour.isSome && r.zone.isNone && t.length ≤ 5 &&
    (t.all (fun c => 'A' ≤ c && c ≤ 'Z') || t = ['z'])

end Reading

/-- A reading, and how many pieces after the current one have been taken along with it. -/
abbrev Step := Try (Reading × Nat)

/-- Where the label of the unit for a numeral stands: ahead, with the pieces to take, or behind,
where it labels the numeral before this one. -/
def unitFor (before after : List Token) : Option (Nat × Nat) :=
  let ahead (k : Nat) := (after[k]?.bind unit?).map (·, k + 1)
  let behind (k : Nat) := (before[k]?.bind unit?).map fun u => (u + 1, 0)
  (ahead 0).or <| (if after[0]? = some [' '] then ahead 1 else none).or <| (behind 0).or <|
    if after.isEmpty && before[0]? == some [' '] then behind 1 else none

/-- Two or three numbers, or names of months, with the same sign between them. -/
def joinedNumbers (r : Reading) (t sign : Token) (after : List Token) : Step := do
  let r ← r.addToken? t .unknown
  match after[1]? with
  | none => return (r, 1)
  | some second =>
    if isFiller second then return (r, 1)
    else
      let r ← match month? second with
        | some m => r.addMonth? m
        | none => r.addToken? second .unknown
      if after[2]? = some sign then
        let third ← after[3]?
        let r ← match month? third with
          | some m => r.addMonth? m
          | none => r.addToken? third .unknown
        return (r, 4)
      else return (r, 2)

/-- Hours and minutes with a colon between them, and seconds after another one. -/
def clock (r : Reading) (a : Amount) (after : List Token) : Step := do
  let minutes ← after[1]?.bind Amount.read?
  let r ← { r with hour := some a.whole }.withMinutes minutes
  match after[2]?, after[3]? with
  | some [':'], some t =>
    let (s, f) ← Reading.seconds? t
    return ({ r with second := some s, micros := some f }, 4)
  | _, _ => return (r, 2)

/-- What a numeral says, by its length and by the pieces around it. -/
def numeral (r : Reading) (before : List Token) (t : Token) (a : Amount) (after : List Token) :
    Step := do
  let n := t.length
  let next := after[0]?
  let labelled := (unitFor before after).isSome
  if r.numbers.length = 3 ∧ (n = 2 ∨ n = 4) ∧ r.hour.isNone ∧
      (next.isNone ∨ (next ≠ some [':'] ∧ (next.bind unit?).isNone)) then
    let hour ← number? (t.take 2)
    let minute ← if n = 4 then (number? (t.drop 2)).map some else some r.minute
    return ({ r with hour := some hour, minute := minute }, 0)
  else if n = 6 ∨ (6 < n ∧ t.idxOf '.' = 6) then
    if r.numbers.isEmpty ∧ !t.contains '.' then
      let r ← r.addToken? (t.take 2) .unknown
      let r ← r.addToken? ((t.drop 2).take 2) .unknown
      let r ← r.addToken? (t.drop 4) .unknown
      return (r, 0)
    else
      let hour ← number? (t.take 2)
      let minute ← number? ((t.drop 2).take 2)
      let (second, micros) ← Reading.seconds? (t.drop 4)
      return ({ r with
        hour := some hour, minute := some minute, second := some second, micros := some micros }, 0)
  else if n = 8 ∨ n = 12 ∨ n = 14 then
    let r ← r.addToken? (t.take 4) .year
    let r ← r.addToken? ((t.drop 4).take 2) .unknown
    let r ← r.addToken? ((t.drop 6).take 2) .unknown
    if n = 8 then return (r, 0)
    else
      let hour ← number? ((t.drop 8).take 2)
      let minute ← number? ((t.drop 10).take 2)
      let second ← if n = 14 then (number? (t.drop 12)).map some else some r.second
      return ({ r with hour := some hour, minute := some minute, second := second }, 0)
  else if labelled then
    let (unit, taken) ← unitFor before after
    return (← r.withUnit t a unit, taken)
  else if 2 ≤ after.length ∧ next = some [':'] then clock r a after
  else match next with
    | none => return (← r.addAmount? a, 1)
    | some sign =>
      if sign = ['-'] ∨ sign = ['/'] ∨ sign = ['.'] then joinedNumbers r t sign after
      else if isFiller sign then
        match after[1]?.bind half? with
        | some h => return ({ r with hour := some (Reading.hourIn a.whole h) }, 2)
        | none => return (← r.addAmount? a, 1)
      else match half? sign with
        | some h =>
          if a.whole < 24 then return ({ r with hour := some (Reading.hourIn a.whole h) }, 1)
          else if r.couldBeDay a then return (← r.addAmount? a, 0)
          else unreadable
        | none => if r.couldBeDay a then return (← r.addAmount? a, 0) else unreadable

/-- The year that two digits stand for, within fifty years of the year the phrases are read in; a
year in full stands for itself. -/
def yearInFull (thisYear year : Nat) (isFull : Bool) : Nat :=
  if year < 100 ∧ !isFull then
    let y := thisYear / 100 * 100 + year
    if thisYear + 50 ≤ y then y - 100 else if y + 50 < thisYear then y + 100 else y
  else year

/-- The name of a month, and what belongs to it. -/
def monthName (thisYear : Nat) (r : Reading) (m : Nat) (after : List Token) : Step := do
  let r ← r.addMonth? m
  match after[0]? with
  | none => return (r, 0)
  | some sign =>
    if sign = ['-'] ∨ sign = ['/'] then
      let r ← r.addToken? (← after[1]?) .unknown
      if after[2]? = some sign then return (← r.addToken? (← after[3]?) .unknown, 4)
      else return (r, 2)
    else match after with
      | [' '] :: link :: [' '] :: t :: _ =>
        if String.ofList (link.map Char.toLower) = "of" then
          if t.all isNumeric then
            let year := yearInFull thisYear (← shortNumber? t) false
            return (← Reading.add? { r with fullYear := true } year .year, 4)
          else return (r, 4)
        else return (r, 0)
      | _ => return (r, 0)

/-- How far a clock is ahead or behind, in hours and minutes, and perhaps the name of its zone in
brackets. -/
def zoneOffset (r : Reading) (isAhead : Bool) (after : List Token) : Step := do
  let t ← after[0]?
  let (seconds, k) ←
    if t.length = 4 then do
      let h ← shortNumber? (t.take 2)
      let m ← shortNumber? (t.drop 2)
      pure (h * 3600 + m * 60, 0)
    else if after[1]? = some [':'] then do
      let h ← shortNumber? t
      let m ← shortNumber? (← after[2]?)
      pure (h * 3600 + m * 60, 2)
    else if t.length ≤ 2 then do
      let h ← shortNumber? t
      pure (h * 3600, 0)
    else unreadable
  let r := { r with zoneSeconds := some (if isAhead then (seconds : Int) else -(seconds : Int)) }
  match after.drop (k + 1) with
  | filler :: ['('] :: name :: [')'] :: _ =>
    if isFiller filler ∧ 3 ≤ name.length ∧ r.couldBeZone name then
      return ({ r with zone := some name }, k + 5)
    else return (r, k + 1)
  | _ => return (r, k + 1)

/-- The name of a zone. A sign at once after it counts in reverse: the clock that is so far ahead of
or behind this one shows the time of the zone, which for universal time has another name then. -/
def zoneName (r : Reading) (t : Token) (after : List Token) : Step :=
  match after with
  | [sign] :: rest =>
    if sign = '+' ∨ sign = '-' then do
      let zone := if isUniversal t then none else some t
      let (r, taken) ← zoneOffset { r with zone := zone } (sign = '-') rest
      return (r, taken + 1)
    else named
  | _ => named
where
  named : Step :=
    .ok ({ r with zone := some t, zoneSeconds := if t = ['z'] then some 0 else none }, 0)

/-- What one piece says, with the pieces around it. -/
def step (thisYear : Nat) (r : Reading) (before : List Token) (t : Token) (after : List Token) :
    Step :=
  match Amount.read? t with
  | some a => numeral r before t a after
  | none =>
  if isBoundless t then unreadable else
  match weekday? t with
  | some d => .ok ({ r with weekday := some d }, 0)
  | none =>
  match month? t with
  | some m => monthName thisYear r m after
  | none =>
  match half? t with
  | some h =>
    match r.hour with
    | some hour =>
      if hour ≤ 12 then .ok ({ r with hour := some (Reading.hourIn hour h) }, 0) else unreadable
    | none => unreadable
  | none =>
  if r.zoneSeconds.isNone ∧ r.couldBeZone t then zoneName r t after
  else if r.hour.isSome ∧ (t = ['+'] ∨ t = ['-']) then zoneOffset r (t = ['+']) after
  else if isFiller t then .ok (r, 0)
  else unreadable

/-- Reads the pieces one after the other; `before` holds those already read, the nearest first. -/
def readFrom (thisYear : Nat) (r : Reading) (before : List Token) : List Token → Try Reading
  | [] => .ok r
  | t :: after =>
    match step thisYear r before t after with
    | .error s => .error s
    | .ok (r, taken) =>
      readFrom thisYear r ((after.take taken).reverse ++ t :: before) (after.drop taken)
termination_by ts => ts.length
decreasing_by
  simp only [List.length_drop, List.length_cons]
  omega

end NotePlot.Phrase
