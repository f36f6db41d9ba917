import NotePlot.Text.Quoted
/-! Everything that can go wrong with a query, by cause, and the words in which it is reported. -/
namespace NotePlot

/-- A list of names as messages show it. -/
def listing (names : List String) : String :=
  "[" ++ ", ".intercalate (names.map Text.quoted) ++ "]"

/-- What is wrong with a chart specification. -/
inductive SpecFault
  | notMapping
  | empty
  | unreadable
  | typeMissing
  | notStrings (part found : String)
  | notSection (part found : String)
  | unknownChoice (choice given : String) (known : List String)
  | windowIsBoolean
deriving DecidableEq

def SpecFault.message : SpecFault → String
  | notMapping => "Chart specification must be a mapping"
  | empty => "Chart block is empty"
  | unreadable => "Invalid chart YAML"
  | typeMissing => "'type' is required"
  | notStrings part found => part ++ " must be a string or a list of strings, got " ++ found
  | notSection part found => part ++ " must be a mapping, got " ++ found
  | unknownChoice choice given known =>
    "Invalid " ++ choice ++ " '" ++ given ++ "'. Must be one of " ++ listing known
  | windowIsBoolean => "aggregate.rolling must be a window size, not a boolean"

/-- A channel that the chart type needs and the encoding leaves out. -/
inductive ChannelFault
  | xMissing
  | yMissing
deriving DecidableEq

def ChannelFault.message : ChannelFault → String
  | xMissing => "encoding.x is required"
  | yMissing => "encoding.y is required (except when aggregate.y = 'count')"

/-- What is wrong with a condition on notes. -/
inductive ClauseFault
  | unreadable (clause : String)
  | fieldMissing (clause : String)
  | boundMismatch (field : String)
deriving DecidableEq

def ClauseFault.message : ClauseFault → String
  | unreadable clause => "Invalid WHERE expression: " ++ clause
  | fieldMissing clause => "Invalid WHERE expression (missing field): " ++ clause
  | boundMismatch field =>
    "value2 must be set exactly when operator is 'between' (field '" ++ field ++ "')"

/-- What is wrong with a request for running sums or means. -/
inductive TransformFault
  | window (given : String)
  | chartType (allowed : List String) (given : String)
  | both
deriving DecidableEq

def TransformFault.message : TransformFault → String
  | window given => "Invalid aggregate.rolling: " ++ given
  | chartType allowed given =>
    "aggregate.cumulative / aggregate.rolling are only supported for type: " ++
      " or ".intercalate allowed ++ " (got '" ++ given ++ "')"
  | both => "aggregate.cumulative and aggregate.rolling cannot be used together"

/-- What is wrong with the raw form of a note. -/
inductive NoteFault
  | pathMissing
  | propertiesNotMapping (path : String)
deriving DecidableEq

def NoteFault.message : NoteFault → String
  | pathMissing => "Note record requires a non-empty 'path'"
  | propertiesNotMapping path => "Note record '" ++ path ++ "' properties must be a mapping"

/-- A value outside the range of what it should become. -/
inductive RangeFault
  | year (n : Int)
  | month
  | day
  | hour
  | minute
  | second
  | offset (span : String)
  | character
  | notANumber
  /-- What is shown is the text or the bytes in quotes, here and in the next. -/
  | notANumeral (shown : String)
  | notAnInteger (base : Nat) (shown : String)
  | numeralTooLong (digits : Nat)
  | integerTooLong
deriving DecidableEq

/-- The beginning of a text. -/
def opening (n : Nat) (s : String) : String := String.ofList (s.toList.take n)

/-- The rule that integers are written in so many digits at most. -/
def digitRule : String :=
  "Exceeds the limit (" ++ toString Text.mostDigits ++ " digits) for integer string conversion"

/-- The advice that goes with the rule. -/
def digitAdvice : String := "; use sys.set_int_max_str_digits() to increase the limit"

def RangeFault.message : RangeFault → String
  | year n => "year " ++ toString n ++ " is out of range"
  | month => "month must be in 1..12"
  | day => "day is out of range for month"
  | hour => "hour must be in 0..23"
  | minute => "minute must be in 0..59"
  | second => "second must be in 0..59"
  | offset span =>
    "offset must be a timedelta strictly between -timedelta(hours=24) and timedelta(hours=24), not " ++
      span ++ "."
  | character => "chr() arg not in range(0x110000)"
  | notANumber => "cannot convert float NaN to integer"
  | notANumeral shown => "could not convert string to float: " ++ shown
  | notAnInteger base shown =>
    "invalid literal for int() with base " ++ toString base ++ ": " ++ opening 200 shown
  | numeralTooLong digits =>
    digitRule ++ ": value has " ++ toString digits ++ " digits" ++ digitAdvice
  | integerTooLong => digitRule ++ digitAdvice

/-- Why a value cannot become a setting of the wanted kind. -/
inductive SettingFault
  | boolean (shown : String)
  | notList (found : String)
  | notInteger (found : String)
  | range (fault : RangeFault)
deriving DecidableEq

def SettingFault.message : SettingFault → String
  | boolean shown => "expected a number, got boolean " ++ shown
  | notList found => "expected a list or comma-separated string, got " ++ found
  | notInteger found =>
    "int() argument must be a string, a bytes-like object or a real number, not '" ++ found ++ "'"
  | range fault => fault.message

/-- What is wrong with the settings as a whole. -/
inductive SettingsFault
  | unreadable (file : String)
  | notMapping (file : String)
  | fileValue (key shown wanted found : String) (fault : SettingFault)
  | override (name shown wanted : String) (fault : SettingFault)
  | blockNotPositive (shown : String)
deriving DecidableEq

def SettingsFault.message : SettingsFault → String
  | unreadable file => "Invalid YAML in " ++ file
  | notMapping file => "Config file " ++ file ++ " must contain a mapping"
  | fileValue key shown wanted found fault =>
    "Type coercion failed for critical config " ++ key ++ "=" ++ shown ++ ": expected " ++ wanted ++
      ", got " ++ found ++ ". Error: " ++ fault.message
  | override name shown wanted fault =>
    "Type coercion failed for critical config " ++ name ++ "=" ++ shown ++ ": expected " ++ wanted ++
      ". Error: " ++ fault.message
  | blockNotPositive shown => "default_block_minutes must be positive, got " ++ shown

inductive Failure
  | spec (fault : SpecFault)
  | channel (fault : ChannelFault)
  | clause (fault : ClauseFault)
  /-- A clause of a specification, together with what is wrong with it. -/
  | condition (text : String) (fault : ClauseFault)
  | transform (fault : TransformFault)
  | note (fault : NoteFault)
  | range (fault : RangeFault)
  | setting (fault : SettingFault)
  | settings (fault : SettingsFault)
  /-- Pairs that should make up a mapping, where the one at an index has another length. -/
  | pairLength (index length : Nat)
  /-- A number too large for a double, or a day outside the calendar. -/
  | overflow
  /-- A value of a kind that the operation has no meaning for. -/
  | wrongKind
  /-- A part was asked of a value that has none. -/
  | partMissing
  /-- A value of the host that has no text. -/
  | unprintable
  /-- A name that a table does not list. -/
  | unknownName
  /-- A number was wanted of a text in which nothing is left to read. -/
  | emptyNumeral
  /-- An amount of time with too many digits to tell its fraction. -/
  | amountTooLarge
  /-- A value whose parts lead back to it, where all of them are wanted. -/
  | endless
deriving DecidableEq

/-- The report on a failure, for those that have one. -/
def Failure.message? : Failure → Option String
  | spec fault => some fault.message
  | channel fault => some fault.message
  | clause fault => some fault.message
  | condition text fault =>
    some ("Invalid condition: " ++ text ++ " (" ++ fault.message ++ ")")
  | transform fault => some fault.message
  | note fault => some fault.message
  | range fault => some fault.message
  | setting (.notInteger _) => none
  | setting fault => some fault.message
  | settings fault => some fault.message
  | pairLength index length =>
    some ("dictionary update sequence element #" ++ toString index ++ " has length " ++
      toString length ++ "; 2 is required")
  | overflow | wrongKind | partMissing | unprintable | unknownName | emptyNumeral
  | amountTooLarge | endless => none

/-- The answer to a question, or the failure that kept it from being answered. -/
abbrev Outcome (α : Type) := Except Failure α

namespace Outcome

variable {α β : Type} {a : α} {b : β} {x : Outcome α} {f : α → Outcome β}

@[simp]
theorem ok_bind : (Except.ok a >>= f : Outcome β) = f a := rfl

@[simp]
theorem pure_eq_ok : (pure a : Outcome α) = .ok a := rfl

/-- An answer in two steps comes from an answer to the first. -/
theorem bind_eq_ok : (x >>= f) = .ok b ↔ ∃ a, x = .ok a ∧ f a = .ok b := by
  cases x with
  | ok a => simp
  | error e => exact iff_of_false (fun h => nomatch h) (by simp)

end Outcome
end NotePlot
