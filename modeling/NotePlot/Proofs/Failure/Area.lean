import NotePlot.Value.Kind
import NotePlot.Clause.Operand
import NotePlot.Proofs.Value.Spelled
/-! What failures are about. Whatever goes wrong with a value, with its text, its number or its
date, is about the value, and never about the chart or the clause that asked for it. -/
namespace NotePlot

/-- What a failure is about. -/
inductive Area
  | chart
  /-- A clause on its own. -/
  | clause
  /-- A clause among those of a chart. -/
  | condition
  | running
  | note
  | settings
  | value
deriving DecidableEq

def Failure.area : Failure → Area
  | spec _ | channel _ => .chart
  | clause _ => .clause
  | condition .. => .condition
  | transform _ => .running
  | note _ => .note
  | setting _ | settings _ => .settings
  | range _ | pairLength .. | overflow | wrongKind | partMissing | unprintable | unknownName
  | emptyNumeral | amountTooLarge | endless => .value

namespace Outcome

variable {α β : Type} {areas more : List Area} {x : Outcome α} {f : α → Outcome β}

/-- An outcome that fails, if it does, in one of these areas. -/
def FailsIn (areas : List Area) (x : Outcome α) : Prop :=
  ∀ failure, x = .error failure → failure.area ∈ areas

theorem failsIn_ok (a : α) : FailsIn areas (.ok a) := nofun

theorem failsIn_error {failure : Failure} (h : failure.area ∈ areas) :
    FailsIn areas (.error failure : Outcome α) := failsOnly_error h

theorem FailsIn.mono (h : FailsIn areas x) (hs : areas ⊆ more) : FailsIn more x :=
  FailsOnly.mono h fun _ hf => hs hf

/-- A failure in another area does not happen. -/
theorem FailsIn.ne_error {failure : Failure} (h : FailsIn areas x)
    (hf : failure.area ∉ areas) : x ≠ .error failure :=
  fun he => hf (h failure he)

/-- Two steps fail where the first does or where the second does. -/
theorem failsIn_bind (hx : FailsIn areas x) (hf : ∀ a, FailsIn areas (f a)) :
    FailsIn areas (x >>= f) := failsOnly_bind hx fun a _ => hf a

theorem failsIn_ite {p : Prop} [Decidable p] {y : Outcome α} (hx : FailsIn areas x)
    (hy : FailsIn areas y) : FailsIn areas (if p then x else y) := failsOnly_ite hx hy

theorem failsIn_mapM {g : α → Outcome β} (h : ∀ a, FailsIn areas (g a)) (as : List α) :
    FailsIn areas (as.mapM g) := failsOnly_mapM fun a _ => h a

/-- A failure of a range is about the value that is out of it. -/
theorem failsIn_range {x : Except RangeFault α} :
    FailsIn [.value] (x.mapError .range : Outcome α) := by
  cases x with
  | ok a => exact failsIn_ok a
  | error fault => exact failsIn_error (by simp [Failure.area])

end Outcome

open Outcome

theorem Scalar.failsIn_written (write : Scalar → String) (s : Scalar) :
    FailsIn [.value] (s.written write) :=
  failsIn_ite (failsIn_ok _) (failsIn_error (by simp [Failure.area]))

namespace Knot

variable (k : Knot)

theorem failsIn_quotedAt (fuel : Nat) (around : List Nat) (place : Nat) :
    FailsIn [.value] (k.quotedAt fuel around place) := by
  induction fuel generalizing around place with
  | zero => exact failsIn_ok _
  | succ fuel ih =>
    rw [quotedAt]
    refine failsIn_ite (failsIn_ok _) ?_
    have part : ∀ p, FailsIn [.value] (k.quotedAt fuel (place :: around) p) := ih _
    split
    case h_1 => exact Scalar.failsIn_written _ _
    case h_2 => exact failsIn_bind (failsIn_mapM part _) fun _ => failsIn_ok _
    case h_3 => exact failsIn_bind (failsIn_mapM part _) fun _ => failsIn_ok _
    case h_4 =>
      exact failsIn_bind (failsIn_mapM (Scalar.failsIn_written _) _) fun _ => failsIn_ok _
    case h_5 =>
      refine failsIn_bind (failsIn_mapM (fun (name, p) => ?_) _) fun _ => failsIn_ok _
      exact failsIn_bind (name.failsIn_written _) fun _ =>
        failsIn_bind (part p) fun _ => failsIn_ok _

theorem failsIn_plainAt (fuel place : Nat) : FailsIn [.value] (k.plainAt fuel place) := by
  induction fuel generalizing place with
  | zero => exact failsIn_error (by simp [Failure.area])
  | succ fuel ih =>
    rw [plainAt]
    split
    case h_1 => exact Scalar.failsIn_written _ _
    case h_2 | h_3 =>
      refine failsIn_bind (failsIn_mapM (fun p => ?_) _) fun _ => failsIn_ok _
      split
      · exact failsIn_ok _
      · exact ih p
    case h_4 => exact k.failsIn_quotedAt _ _ _
    case h_5 => exact k.failsIn_quotedAt _ _ _

end Knot

namespace Value

theorem failsIn_told (told? : Option String) : FailsIn [.value] (told told?) := by
  cases told? with
  | none => exact failsIn_error (by simp [Failure.area])
  | some s => exact failsIn_ok _

mutual

theorem failsIn_quoted : (v : Value) → FailsIn [.value] v.quoted
  | scalar s => s.failsIn_written _
  | list xs | tuple xs | set xs => failsIn_bind (failsIn_quotedItems xs) fun _ => failsIn_ok _
  | map es => failsIn_bind (failsIn_quotedEntries es) fun _ => failsIn_ok _
  | foreign o | arrayLike o _ => failsIn_told o.quoted
  | knot k => k.failsIn_quotedAt _ _ _

theorem failsIn_quotedItems : (xs : List Value) → FailsIn [.value] (quotedItems xs)
  | [] => failsIn_ok _
  | x :: xs => failsIn_bind (failsIn_quoted x) fun _ =>
    failsIn_bind (failsIn_quotedItems xs) fun _ => failsIn_ok _

theorem failsIn_quotedEntries : (es : List (Scalar × Value)) → FailsIn [.value] (quotedEntries es)
  | [] => failsIn_ok _
  | (k, v) :: es => failsIn_bind (k.failsIn_written _) fun _ =>
    failsIn_bind (failsIn_quoted v) fun _ =>
      failsIn_bind (failsIn_quotedEntries es) fun _ => failsIn_ok _

end

theorem failsIn_display (v : Value) : FailsIn [.value] v.display := by
  unfold display
  split
  · exact Scalar.failsIn_written _ _
  · exact failsIn_told _
  · exact failsIn_told _
  · exact v.failsIn_quoted

mutual

theorem failsIn_plain : (v : Value) → FailsIn [.value] v.plain
  | scalar s => s.failsIn_written _
  | list xs | tuple xs => failsIn_bind (failsIn_plainItems xs) fun _ => failsIn_ok _
  | knot k => k.failsIn_plainAt _ _
  | set xs => failsIn_quoted (set xs)
  | map es => failsIn_quoted (map es)
  | foreign o | arrayLike o _ => failsIn_told o.display

theorem failsIn_plainItems : (xs : List Value) → FailsIn [.value] (plainItems xs)
  | [] => failsIn_ok _
  | x :: xs =>
    have rest (part : String) : FailsIn [.value] (do return part :: (← plainItems xs)) :=
      failsIn_bind (failsIn_plainItems xs) fun _ => failsIn_ok _
    failsIn_ite (rest "") (failsIn_bind (failsIn_plain x) rest)

end

end Value

theorem failsIn_numberInText (cs : List Char) : FailsIn [.value] (numberInText cs) :=
  (failsOnly_numberInText cs).mono fun _ h => by simp [h.1, Failure.area]

theorem Value.failsIn_number (v : Value) : FailsIn [.value] v.number :=
  v.failsOnly_number.mono fun _ h => by simp [h.1, Failure.area]

/-- Only an amount in a phrase keeps a value from telling its moment, or that it has none. -/
theorem Value.failsOnly_moment (phrases : Phrases) (v : Value) :
    FailsOnly (· = .amountTooLarge) (v.moment phrases) := by
  unfold moment
  split
  next s =>
    unfold momentInText
    dsimp only
    split
    next => exact failsOnly_ok _
    next =>
      exact failsOnly_ite (failsOnly_ok _) (phrases.fails _)
  next => exact failsOnly_ok _

theorem Value.failsIn_moment (phrases : Phrases) (v : Value) :
    FailsIn [.value] (v.moment phrases) :=
  (v.failsOnly_moment phrases).mono fun _ h => by simp [h, Failure.area]

namespace Date

variable (d : Date) (n : Int)

theorem failsIn_stepDays : FailsIn [.value] (d.stepDays n) := by
  unfold stepDays
  split
  · exact failsIn_ok _
  · exact failsIn_error (by simp [Failure.area])

theorem failsIn_stepMonths : FailsIn [.value] (d.stepMonths n) := by
  unfold stepMonths
  dsimp only
  split
  · exact failsIn_stepDays _ _
  · apply failsIn_error
    split <;> simp [Failure.area]

end Date

namespace Relative

theorem failsIn_resolve (day : Date) (r : Relative) : FailsIn [.value] (r.resolve day) := by
  cases r with
  | today => exact failsIn_ok _
  | yesterday => exact day.failsIn_stepDays _
  | days n => exact day.failsIn_stepDays _
  | weeks n => exact day.failsIn_stepDays _
  | months n => exact day.failsIn_stepMonths _

theorem failsIn_ofSigned (cs : List Char) : FailsIn [.value] (ofSigned cs) := by
  unfold ofSigned
  split
  · exact failsIn_ok _
  · split
    · exact failsIn_ok _
    · exact failsIn_ite (failsIn_ok _) (failsIn_bind failsIn_range fun _ => failsIn_ok _)

theorem failsIn_read (cs : List Char) : FailsIn [.value] (read cs) :=
  failsIn_ite (failsIn_ok _) (failsIn_ite (failsIn_ok _) (failsIn_ofSigned _))

end Relative

namespace Operand

variable (now : Reference)

theorem failsIn_dayOf : FailsIn [.value] (dayOf now) := by
  refine failsIn_bind (now.value.failsIn_moment now.phrases) fun m => ?_
  split
  · exact failsIn_ok _
  · exact failsIn_error (by simp [Failure.area])

theorem failsIn_relative? (cs : List Char) : FailsIn [.value] (relative? now cs) := by
  refine failsIn_bind (failsIn_dayOf now) fun day => failsIn_bind (Relative.failsIn_read cs) ?_
  intro r
  split
  · exact failsIn_bind (Relative.failsIn_resolve _ _) fun _ => failsIn_ok _
  · exact failsIn_ok _

theorem failsIn_ofPlain (cs : List Char) : FailsIn [.value] (ofPlain cs) := by
  unfold ofPlain
  split
  · exact failsIn_ok _
  · refine failsIn_bind (failsIn_numberInText cs) fun n => ?_
    split <;> exact failsIn_ok _

/-- An operand that cannot be read fails for what it says, as do numbers that are too large and
dates that leave the calendar. -/
theorem failsIn_read (dateField : Bool) (token : String) :
    FailsIn [.value] (read now dateField token) := by
  unfold read
  dsimp only
  split
  · exact failsIn_ok _
  · refine failsIn_ite (failsIn_bind (failsIn_dayOf now) fun _ => failsIn_ok _) ?_
    refine failsIn_ite (failsIn_bind (failsIn_relative? now _) fun m => ?_) (failsIn_ofPlain _)
    split
    · exact failsIn_ok _
    · exact failsIn_ofPlain _

end Operand
end NotePlot
