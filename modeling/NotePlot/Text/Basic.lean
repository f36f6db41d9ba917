/-! Characters: the blanks that separate words, and the decimal digits of any script with the
numbers that runs of them denote. -/
namespace NotePlot.Text

/-- The separators are the controls from tab to carriage return and from file to unit separator,
the space, the next-line mark, and every wide or narrow space and line separator beyond ASCII. -/
def isBlank (c : Char) : Bool :=
  let n := c.toNat
  (9 ≤ n && n ≤ 13) || (28 ≤ n && n ≤ 32) || n == 0x85 || n == 0xA0 || n == 0x1680 ||
    (0x2000 ≤ n && n ≤ 0x200A) || n == 0x2028 || n == 0x2029 || n == 0x202F || n == 0x205F ||
    n == 0x3000

def trimStart (cs : List Char) : List Char := cs.dropWhile isBlank

def trimEnd (cs : List Char) : List Char := (cs.reverse.dropWhile isBlank).reverse

def trim (cs : List Char) : List Char := trimEnd (trimStart cs)

/-- The word that a text begins with, empty if it begins with a blank, and the words after it. -/
def firstWord : List Char → List Char × List (List Char)
  | [] => ([], [])
  | c :: cs =>
    let (word, later) := firstWord cs
    if isBlank c then ([], if word.isEmpty then later else word :: later)
    else (c :: word, later)

/-- The maximal runs of characters that are not blanks. -/
def words (cs : List Char) : List (List Char) :=
  let (word, later) := firstWord cs
  if word.isEmpty then later else word :: later

def strip (s : String) : String := String.ofList (trim s.toList)

theorem words_blank_cons {c : Char} {cs : List Char} (h : isBlank c) :
    words (c :: cs) = words cs := by
  simp [words, firstWord, h]

/-- The zero of each script that writes numbers in base ten; its other digits follow in order. -/
def zeros : List Nat := [
  0x30, 0x660, 0x6F0, 0x7C0, 0x966, 0x9E6, 0xA66, 0xAE6, 0xB66, 0xBE6, 0xC66, 0xCE6, 0xD66,
  0xDE6, 0xE50, 0xED0, 0xF20, 0x1040, 0x1090, 0x17E0, 0x1810, 0x1946, 0x19D0, 0x1A80, 0x1A90,
  0x1B50, 0x1BB0, 0x1C40, 0x1C50, 0xA620, 0xA8D0, 0xA900, 0xA9D0, 0xA9F0, 0xAA50, 0xABF0,
  0xFF10, 0x104A0, 0x10D30, 0x11066, 0x110F0, 0x11136, 0x111D0, 0x112F0, 0x11450, 0x114D0,
  0x11650, 0x116C0, 0x11730, 0x118E0, 0x11950, 0x11C50, 0x11D50, 0x11DA0, 0x16A60, 0x16AC0,
  0x16B50, 0x1D7CE, 0x1D7D8, 0x1D7E2, 0x1D7EC, 0x1D7F6, 0x1E140, 0x1E2F0, 0x1E950, 0x1FBF0]

def digit? (c : Char) : Option Nat :=
  if c.toNat < 128 then if '0' ≤ c && c ≤ '9' then some (c.toNat - 48) else none
  else (zeros.find? fun z => z ≤ c.toNat && c.toNat < z + 10).map (c.toNat - ·)

def isDigit (c : Char) : Bool := (digit? c).isSome

def isHexDigit (c : Char) : Bool :=
  ('0' ≤ c && c ≤ '9') || ('a' ≤ c && c ≤ 'f') || ('A' ≤ c && c ≤ 'F')

def hexDigit (c : Char) : Nat :=
  if c ≤ '9' then c.toNat - 48 else if c ≤ 'F' then c.toNat - 55 else c.toNat - 87

/-- The number that digits in a base denote, the most significant first. -/
def ofDigits (base : Nat) (ds : List Nat) : Nat := ds.foldl (fun n d => base * n + d) 0

/-- The number that a run of digits denotes; what is no digit counts as zero. -/
def numberOf (cs : List Char) : Nat := ofDigits 10 (cs.map fun c => (digit? c).getD 0)

/-- The number that a text denotes if it consists of digits, at least one. -/
def number? (cs : List Char) : Option Nat :=
  if !cs.isEmpty && cs.all isDigit then some (numberOf cs) else none

/-- How many digits the text of an integer may have. -/
def mostDigits : Nat := 4300

/-- The number that a text denotes if it consists of digits, and not of too many. -/
def shortNumber? (cs : List Char) : Option Nat :=
  if cs.length ≤ mostDigits then number? cs else none

/-- A number in at least `width` digits. -/
def padded (width n : Nat) : List Char :=
  let ds := Nat.toDigits 10 n
  List.replicate (width - ds.length) '0' ++ ds

theorem ofDigits_append (base : Nat) (ds : List Nat) (d : Nat) :
    ofDigits base (ds ++ [d]) = base * ofDigits base ds + d := by
  simp [ofDigits]

end NotePlot.Text
