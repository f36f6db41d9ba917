import NotePlot.Yaml.Assembly
import NotePlot.Proofs.Value.Scalars
/-! Values that can be written: all but those with an object of the host in them that refuses to
have a text. Only an integer of too many digits keeps such a value from being written, and all that
a YAML document holds is such a value. -/
namespace NotePlot

open Outcome

variable {v : Value} {es : List (Scalar × Value)}

/-- A failure over a range that something is out of. -/
def Failure.IsRange (failure : Failure) : Prop := ∃ fault, failure = .range fault

theorem Scalar.isRange_of_written (write : Scalar → String) (s : Scalar) :
    FailsOnly Failure.IsRange (s.written write) :=
  s.failsOnly_written write fun _ => ⟨_, rfl⟩

namespace Value

inductive IsPrintable : Value → Prop
  | scalar (s : Scalar) : IsPrintable (.scalar s)
  | list {xs : List Value} (h : ∀ x ∈ xs, IsPrintable x) : IsPrintable (.list xs)
  | tuple {xs : List Value} (h : ∀ x ∈ xs, IsPrintable x) : IsPrintable (.tuple xs)
  | set {xs : List Value} (h : ∀ x ∈ xs, IsPrintable x) : IsPrintable (.set xs)
  | map {es : List (Scalar × Value)} (h : ∀ e ∈ es, IsPrintable e.2) : IsPrintable (.map es)
  | foreign {o : Foreign} (h : o.IsPrintable) : IsPrintable (.foreign o)
  | arrayLike {o : Foreign} (h : o.IsPrintable) (v : Value) : IsPrintable (.arrayLike o v)
  | knot (k : Knot) : IsPrintable (.knot k)

/-- Which scalars stand in a value does not matter for that. -/
theorem isPrintable_iff : v.IsPrintable ↔ v.AllScalars fun _ => True := by
  constructor
  · intro h
    induction h with
    | scalar s => exact .scalar trivial
    | list _ ih => exact .list ih
    | tuple _ ih => exact .tuple ih
    | set _ ih => exact .set ih
    | map _ ih => exact .map (fun _ _ => trivial) ih
    | foreign h => exact .foreign h
    | arrayLike h v => exact .arrayLike h v
    | knot k => exact .knot fun cell _ => cell.allScalars_true
  · intro h
    induction h with
    | scalar _ => exact .scalar _
    | list _ ih => exact .list ih
    | tuple _ ih => exact .tuple ih
    | set _ ih => exact .set ih
    | map _ _ ih => exact .map ih
    | foreign h => exact .foreign h
    | arrayLike h v => exact .arrayLike h v
    | knot _ => exact .knot _

/-- Where only a value that cannot be written is excused, the scalars of a value are excused. -/
theorem IsPrintable.allScalars_isExcused {P : Failure → Prop} (h : v.IsPrintable)
    (hP : ¬ v.IsWritable → P (.range .integerTooLong)) : v.AllScalars (Scalar.IsExcused P) := by
  by_cases hw : v.IsWritable
  · exact hw.mono fun s hs hn => (Bool.false_ne_true (hn.symm.trans hs)).elim
  · exact (isPrintable_iff.mp h).mono fun s _ _ => hP hw

theorem IsPrintable.failsOnly_display (h : v.IsPrintable) : FailsOnly Failure.IsRange v.display :=
  (h.allScalars_isExcused fun _ => ⟨_, rfl⟩).failsOnly_display

theorem isPrintable_ofCells (cells : Array Cell) (place : Nat) : (ofCells cells place).IsPrintable :=
  isPrintable_iff.mpr <|
    (AllScalars.isTakenOver trivial fun cell _ => cell.allScalars_true).ofCells place

theorem IsPrintable.opened (h : v.IsPrintable) : v.opened.IsPrintable :=
  isPrintable_iff.mpr ((isPrintable_iff.mp h).opened trivial)

theorem IsPrintable.of_mem_entries (h : v.IsPrintable) (hv : v.opened = .map es)
    {e : Scalar × Value} (he : e ∈ es) : e.2.IsPrintable := by
  have hmap := hv ▸ h.opened
  cases hmap with
  | map hes => exact hes e he

end Value

theorem Yaml.isPrintable_read {s : String} (h : Yaml.read s = .ok v) : v.IsPrintable := by
  obtain rfl | ⟨graph, place, done, -, rfl⟩ := Yaml.read_eq_ok h
  · exact .scalar .null
  · exact Value.isPrintable_ofCells _ _

end NotePlot
