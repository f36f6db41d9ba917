import NotePlot.Value.Basic
import NotePlot.Failure
import NotePlot.Decimal.Binary
/-! Pairs: the entries of a mapping, given as a mapping or as a collection of pairs. -/
namespace NotePlot

namespace Scalar

/-- The integer that a number or truth value is, doubles apart. -/
def integer? : Scalar → Option Int
  | bool b => some (if b then 1 else 0)
  | int n => some n
  | _ => none

/-- Whether two scalars are one key. Numbers and truth values are one by their amount, and moments
of time zones by the instant that they mark. -/
def isSameKey (a b : Scalar) : Bool :=
  match a, b with
  | float x, float y => x == y
  | moment m (some o), moment n (some p) => m.ticks - o.micros = n.ticks - p.micros
  | float x, k | k, float x => k.integer?.any fun n => compareWithInt x n = some .eq
  | _, _ =>
    match a.integer?, b.integer? with
    | some m, some n => m = n
    | _, _ => a = b

end Scalar

namespace Value

/-- Whether a value may be the key of a mapping, or an element of a set. -/
def isHashable : Value → Bool
  | scalar _ | foreign _ | arrayLike .. => true
  | tuple xs => areHashable xs
  | list _ | set _ | map _ | knot _ => false
where
  areHashable : List Value → Bool
  | [] => true
  | x :: xs => isHashable x && areHashable xs

/-- Gives an entry another value if it has the key, and adds one at the end otherwise. -/
def put (es : List (Scalar × Value)) (k : Scalar) (v : Value) : List (Scalar × Value) :=
  if es.any (·.1.isSameKey k) then es.map fun e => if e.1.isSameKey k then (e.1, v) else e
  else es ++ [(k, v)]

/-- Takes over a pair; `index` tells how many went before. A key that has parts can be looked up by
nobody and is left out. -/
def putPair (index : Nat) (es : List (Scalar × Value)) (pair : Value) :
    Outcome (List (Scalar × Value)) :=
  match pair.members? with
  | none => .error .wrongKind
  | some [k, v] =>
    if !k.isHashable then .error .wrongKind
    else match k with
      | scalar k => .ok (put es k v)
      | _ => .ok es
  | some ms => .error (.pairLength index ms.length)

def putPairs (index : Nat) (es : List (Scalar × Value)) :
    List Value → Outcome (List (Scalar × Value))
  | [] => .ok es
  | pair :: rest => do putPairs (index + 1) (← putPair index es pair) rest

/-- The entries that a value gives. -/
def entries (v : Value) : Outcome (List (Scalar × Value)) :=
  match v.opened with
  | map es => .ok es
  | _ =>
    match v.members? with
    | some pairs => putPairs 0 [] pairs
    | none => .error .wrongKind

end Value
end NotePlot
