import NotePlot.Text.Basic
import NotePlot.Text.Letter
/-! The pieces of a date as people write it: words, numerals and single signs. -/
namespace NotePlot.Phrase

open Text

/-- What the piece being read looks like so far. Dots may join letters and digits to one piece. -/
inductive Shape
  | letters
  | digits
  | dottedLetters
  | dottedDigits
deriving DecidableEq

def isNumeric (c : Char) : Bool := isDigit c || isDigitSign c

/-- The shape of a piece with one more character, or none if the piece ends before it; `last` is
its last character so far and `long` tells that it has at least two. -/
def Shape.next (s : Shape) (last : Char) (long : Bool) (c : Char) : Option Shape :=
  match s with
  | letters => if isLetter c then some letters else if c = '.' then some dottedLetters else none
  | digits =>
    if isNumeric c then some digits
    else if c = '.' ∨ (c = ',' ∧ long) then some dottedDigits
    else none
  | dottedLetters =>
    if c = '.' ∨ isLetter c then some dottedLetters
    else if isNumeric c ∧ last = '.' then some dottedDigits
    else none
  | dottedDigits =>
    if c = '.' ∨ isNumeric c then some dottedDigits
    else if isLetter c ∧ last = '.' then some dottedLetters
    else none

/-- A piece with its characters in reverse. It is worded if a letter in it was followed by
anything. -/
structure Piece where
  shape : Shape
  worded : Bool
  reversed : List Char

/-- Reads a piece on as far as it goes. -/
def Piece.extend (p : Piece) : List Char → Piece × List Char
  | [] => (p, [])
  | c :: cs =>
    let worded := p.worded || p.shape = .letters || p.shape = .dottedLetters
    match p.shape.next (p.reversed.headD ' ') (2 ≤ p.reversed.length) c with
    | some shape => Piece.extend ⟨shape, worded, c :: p.reversed⟩ cs
    | none => (⟨p.shape, worded, p.reversed⟩, c :: cs)

theorem Piece.extend_length (p : Piece) (cs : List Char) :
    (p.extend cs).2.length ≤ cs.length := by
  induction cs generalizing p with
  | nil => simp [Piece.extend]
  | cons c cs ih =>
    rw [Piece.extend]
    split
    · exact Nat.le_succ_of_le (ih _)
    · simp

/-- Cuts a text at its dots and commas, which become pieces of their own. -/
def cutAtPoints : List Char → List (List Char)
  | [] => [[]]
  | c :: cs =>
    if c = '.' ∨ c = ',' then [] :: [c] :: cutAtPoints cs
    else match cutAtPoints cs with
      | piece :: pieces => (c :: piece) :: pieces
      | [] => [[c]]

/-- A dotted piece falls apart if it has letters, more than one dot, or a point at its end. What
is left of a numeral has a dot for a comma. -/
def Piece.tokens (p : Piece) : List (List Char) :=
  let cs := p.reversed.reverse
  let dotted := p.shape = .dottedLetters ∨ p.shape = .dottedDigits
  let atEnd := p.reversed.head? = some '.' ∨ p.reversed.head? = some ','
  if dotted ∧ (p.worded ∨ 1 < cs.count '.' ∨ atEnd) then
    (cutAtPoints cs).filter fun t => !t.isEmpty
  else if p.shape = .dottedDigits ∧ cs.count '.' = 0 then
    [cs.map fun c => if c = ',' then '.' else c]
  else [cs]

/-- The pieces of a text in order. Blanks count one by one, each as a space. -/
def tokens : List Char → List (List Char)
  | [] => []
  | c :: cs =>
    if isLetter c ∨ isNumeric c then
      let read := Piece.extend ⟨if isLetter c then .letters else .digits, false, [c]⟩ cs
      read.1.tokens ++ tokens read.2
    else (if isBlank c then [' '] else [c]) :: tokens cs
termination_by cs => cs.length
decreasing_by
  · exact Nat.lt_succ_of_le (Piece.extend_length _ _)
  · simp

end NotePlot.Phrase
