import NotePlot.Yaml.Cursor
import NotePlot.Text.Basic
/-! Tags: what kind of value a node stands for, and the kinds that plain texts have by their form.
-/
namespace NotePlot.Yaml

inductive Tag
  | null
  | bool
  | int
  | float
  | binary
  | timestamp
  | merge
  | value
  | str
  | seq
  | map
  | set
  | omap
  | pairs
  | other
deriving DecidableEq

namespace Tag

def standard : String := "tag:yaml.org,2002:"

def names : List (String × Tag) := [
  ("null", null), ("bool", bool), ("int", int), ("float", float), ("binary", binary),
  ("timestamp", timestamp), ("merge", merge), ("value", value), ("str", str), ("seq", seq),
  ("map", map), ("set", set), ("omap", omap), ("pairs", pairs)]

/-- The tag of a full name. -/
def ofName (s : String) : Tag :=
  ((names.find? fun (name, _) => standard ++ name = s).map Prod.snd).getD other

/-- The handles that need no directive. -/
def usualHandles : List (String × String) := [("!", "!"), ("!!", standard)]

end Tag

namespace Plain

open Text

def isDigitOr (c : Char) : Bool := c.isDigit || c = '_'

/-- What follows a sign, if there is one. -/
def unsigned : List Char → List Char
  | c :: cs => if c = '+' ∨ c = '-' then cs else c :: cs
  | [] => []

/-- Groups of at most two digits below sixty, each after a colon. -/
def isSexagesimalTail : List Char → Bool
  | ':' :: a :: ':' :: cs => a.isDigit && isSexagesimalTail (':' :: cs)
  | ':' :: a :: b :: ':' :: cs => '0' ≤ a && a ≤ '5' && b.isDigit && isSexagesimalTail (':' :: cs)
  | [':', a] => a.isDigit
  | [':', a, b] => '0' ≤ a && a ≤ '5' && b.isDigit
  | _ => false

/-- A digit that is not zero, and digits up to the first colon. -/
def isSexagesimal (cs : List Char) : Bool :=
  match cs with
  | c :: rest =>
    c.isDigit && isSexagesimalTail (rest.dropWhile isDigitOr)
  | [] => false

def isBool (s : String) : Bool :=
  ["yes", "Yes", "YES", "no", "No", "NO", "true", "True", "TRUE", "false", "False", "FALSE", "on",
    "On", "ON", "off", "Off", "OFF"].contains s

def isNull (s : String) : Bool := ["", "~", "null", "Null", "NULL"].contains s

/-- Integers in base two, eight, ten or sixteen, and in base sixty with colons. -/
def isInt (cs : List Char) : Bool :=
  match unsigned cs with
  | ['0'] => true
  | '0' :: 'b' :: ds => !ds.isEmpty && ds.all fun d => d = '0' || d = '1' || d = '_'
  | '0' :: 'x' :: ds => !ds.isEmpty && ds.all fun d => isHexDigit d || d = '_'
  | '0' :: ds => ds.all fun d => ('0' ≤ d && d ≤ '7') || d = '_'
  | d :: ds => d.isDigit && (ds.all isDigitOr || isSexagesimal (d :: ds))
  | [] => false

/-- A signed exponent, or nothing. -/
def isExponent : List Char → Bool
  | [] => true
  | e :: sign :: ds =>
    (e = 'e' || e = 'E') && (sign = '+' || sign = '-') && !ds.isEmpty && ds.all Char.isDigit
  | _ => false

/-- A fraction without or with an exponent. -/
def isFraction (cs : List Char) : Bool := isExponent (cs.dropWhile isDigitOr)

/-- Numbers with a point, in base ten or, before the point, in base sixty; the infinities and
NaN. -/
def isFloat (cs : List Char) : Bool :=
  let body := unsigned cs
  let afterWhole := body.dropWhile isDigitOr
  let hasWhole := body.head?.any Char.isDigit
  let infinity := [".inf", ".Inf", ".INF"].contains (String.ofList body)
  let nan := [".nan", ".NaN", ".NAN"].contains (String.ofList cs)
  let plain := match afterWhole with
    | '.' :: fs => hasWhole && isFraction fs
    | _ => false
  let pointFirst := match cs with
    | '.' :: d :: fs => d.isDigit && isFraction fs
    | _ => false
  let sixty := hasWhole &&
    isSexagesimalTail (afterWhole.takeWhile (· ≠ '.')) &&
    match afterWhole.dropWhile (· ≠ '.') with
    | '.' :: fs => fs.all isDigitOr
    | _ => false
  infinity || nan || plain || pointFirst || sixty

end Plain
end NotePlot.Yaml
