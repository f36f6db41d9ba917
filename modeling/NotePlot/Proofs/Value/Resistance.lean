import NotePlot.Selection.Basic
import NotePlot.Proofs.Failure.Area
/-! Resistance: a value resists if it cannot be read in one of the ways in which queries read
values, which are all about its number, its text, its moment, its kind and its tags. -/
namespace NotePlot

open Text Outcome

variable {phrases : Phrases} {P : Failure → Prop} {v : Value} {xs : List Value} {props : Properties}
  {failure : Failure} {field : String}

theorem Tag.failsOnly_texts (h : ∀ x ∈ xs, FailsOnly P x.display) : FailsOnly P (texts xs) := by
  induction xs with
  | nil => exact failsOnly_ok _
  | cons x xs ih =>
    obtain ⟨hx, hxs⟩ := List.forall_mem_cons.mp h
    exact failsOnly_ite (ih hxs) (failsOnly_bind hx fun _ _ =>
      failsOnly_bind (ih hxs) fun _ _ => failsOnly_ok _)

theorem Tag.failsIn_written (v : Value) : FailsIn [.value] (written v) := by
  have texts (xs : List Value) : FailsIn [.value] (texts xs) :=
    failsOnly_texts fun x _ => x.failsIn_display
  unfold written
  split
  · exact failsIn_ok _
  · exact texts _
  · exact texts _
  · exact texts _
  · exact failsIn_bind v.failsIn_display fun _ => failsIn_ok _

namespace Value

theorem failsOnly_kindOfText (s : String) :
    FailsOnly (fun failure => failure = .overflow ∧ Numeral.IsTooLarge (trim s.toList))
      (kindOfText s) := by
  have hs := failsOnly_numberInText (strip s).toList
  have htrim : trim (strip s).toList = trim s.toList := by
    rw [strip, String.toList_ofList, trim_trim]
  rw [htrim] at hs
  unfold kindOfText
  dsimp only
  refine failsOnly_ite (failsOnly_ok _) ?_
  split
  next => exact failsOnly_ok _
  next =>
    refine failsOnly_bind hs fun n _ => ?_
    split <;> exact failsOnly_ok _

theorem failsIn_kinded (v : Value) : FailsIn [.value] v.kinded := by
  unfold kinded
  split
  case h_8 | h_9 | h_10 =>
    refine failsIn_bind v.failsIn_number fun n => ?_
    split <;> exact failsIn_ok _
  case h_11 =>
    refine failsIn_bind v.failsIn_plain fun s => (failsOnly_kindOfText s).mono fun _ h => ?_
    simp [h.1, Failure.area]
  all_goals exact failsIn_ok _

/-- One of the readings of a value fails, or one of those of its first item. -/
inductive Resists (phrases : Phrases) (v : Value) (failure : Failure) : Prop
  | number (h : v.number = .error failure)
  | plain (h : v.plain = .error failure)
  | tags (h : Tag.written v = .error failure)
  | firstNumber (h : v.first.number = .error failure)
  | firstPlain (h : v.first.plain = .error failure)
  | firstMoment (h : v.first.moment phrases = .error failure)
  | firstKinded (h : v.first.kinded = .error failure)

/-- A value that resists, if it does, with a failure of this sort. -/
def ResistsOnly (phrases : Phrases) (P : Failure → Prop) (v : Value) : Prop :=
  ∀ failure, v.Resists phrases failure → P failure

theorem resistsOnly_null : null.ResistsOnly phrases P := by
  rintro failure (h | h | h | h | h | h | h) <;> cases h

/-- Whatever resists fails for the value that it is. -/
theorem resistsOnly_area (v : Value) : v.ResistsOnly phrases (·.area ∈ [.value]) := by
  intro failure h
  cases h with
  | number h => exact v.failsIn_number failure h
  | plain h => exact v.failsIn_plain failure h
  | tags h => exact Tag.failsIn_written v failure h
  | firstNumber h => exact v.first.failsIn_number failure h
  | firstPlain h => exact v.first.failsIn_plain failure h
  | firstMoment h => exact v.first.failsIn_moment phrases failure h
  | firstKinded h => exact v.first.failsIn_kinded failure h

namespace ResistsOnly

variable (h : v.ResistsOnly phrases P)
include h

theorem number : FailsOnly P v.number := fun failure hf => h failure (.number hf)
theorem plain : FailsOnly P v.plain := fun failure hf => h failure (.plain hf)
theorem tags : FailsOnly P (Tag.written v) := fun failure hf => h failure (.tags hf)
theorem firstNumber : FailsOnly P v.first.number := fun failure hf => h failure (.firstNumber hf)
theorem firstPlain : FailsOnly P v.first.plain := fun failure hf => h failure (.firstPlain hf)
theorem firstMoment : FailsOnly P (v.first.moment phrases) :=
  fun failure hf => h failure (.firstMoment hf)
theorem firstKinded : FailsOnly P v.first.kinded := fun failure hf => h failure (.firstKinded hf)

end ResistsOnly
end Value

namespace Properties

/-- One of the values resists. -/
def Resist (phrases : Phrases) (props : Properties) (failure : Failure) : Prop :=
  ∃ p ∈ props, p.2.Resists phrases failure

/-- Values that resist, if one does, with a failure of this sort. -/
def ResistOnly (phrases : Phrases) (P : Failure → Prop) (props : Properties) : Prop :=
  ∀ failure, props.Resist phrases failure → P failure

/-- A property that is missing resists nothing. -/
theorem ResistOnly.get (h : props.ResistOnly phrases P) (field : String) :
    (props.get field).ResistsOnly phrases P := by
  unfold Properties.get
  generalize hp : List.find? _ props = found
  cases found with
  | none => exact Value.resistsOnly_null
  | some p => exact fun failure hr => h failure ⟨p, List.mem_of_find?_eq_some hp, hr⟩

theorem resistOnly_area (phrases : Phrases) (props : Properties) :
    props.ResistOnly phrases (·.area ∈ [.value]) :=
  fun failure ⟨p, _, hr⟩ => p.2.resistsOnly_area failure hr

end Properties
end NotePlot
