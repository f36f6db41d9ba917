import NotePlot.Proofs.Value.Resistance
import NotePlot.Proofs.Value.Written
/-! Readings of data: they are resisted only where an amount is too large, for a double or to be
written, or for the reader of phrases. -/
namespace NotePlot

open Text Outcome

variable {v : Value} {failure : Failure}

namespace Value

/-- Why a value can be too much for a reading: the number that it is, alone or at the head of a
list, or the digits of an integer in it. -/
inductive Defies (v : Value) : Failure → Prop
  | number (h : v.IsTooLarge ∨ v.first.IsTooLarge) : Defies v .overflow
  | text (h : v.HasLongInteger) : Defies v (.range .integerTooLong)

/-- No amount in a value is too large: neither the number that it is, alone or at the head of a
list, nor any integer in it. -/
structure IsModerate (v : Value) : Prop where
  number : ¬ v.IsTooLarge
  head : ¬ v.first.IsTooLarge
  digits : ¬ v.HasLongInteger

theorem IsModerate.not_defies (h : v.IsModerate) : ¬ v.Defies failure := by
  intro hd
  cases hd with
  | number hl => exact hl.elim h.number h.head
  | text hl => exact h.digits hl

theorem isModerate_scalar {s : Scalar} (hn : ¬ (scalar s).IsTooLarge) (hw : s.isWritable) :
    (scalar s).IsModerate where
  number := hn
  head := hn
  digits hl := by
    cases hl with
    | scalar hs => exact Bool.false_ne_true (hs.symm.trans hw)

namespace IsData

theorem opened_eq (h : v.IsData) : v.opened = v := by
  cases h <;> rfl

theorem first (h : v.IsData) : v.first.IsData ∧ (v.first.HasLongInteger → v.HasLongInteger) := by
  have null : Value.null.IsData := .scalar .null
  have head {xs : List Value} (h : ∀ x ∈ xs, x.IsData) : (xs.head?.getD .null).IsData ∧
      ((xs.head?.getD .null).HasLongInteger → ∃ x ∈ xs, x.HasLongInteger) := by
    cases xs with
    | nil => exact ⟨null, fun hl => by cases hl with | scalar hs => cases hs⟩
    | cons x xs => exact ⟨h x List.mem_cons_self, fun hl => ⟨x, List.mem_cons_self, hl⟩⟩
  cases h with
  | list h =>
    obtain ⟨hd, hl⟩ := head h
    exact ⟨hd, fun hlong => (hl hlong).elim fun x hx => .list hx.1 hx.2⟩
  | tuple h =>
    obtain ⟨hd, hl⟩ := head h
    exact ⟨hd, fun hlong => (hl hlong).elim fun x hx => .tuple hx.1 hx.2⟩
  | scalar s => exact ⟨.scalar s, id⟩
  | set h => exact ⟨.set h, id⟩
  | map h => exact ⟨.map h, id⟩

theorem failsOnly_written (h : v.IsData) : FailsOnly v.IsTooLong (Tag.written v) := by
  have shown : FailsOnly v.IsTooLong (do return words (← v.display).toList) :=
    failsOnly_bind h.failsOnly_display fun _ _ => failsOnly_ok _
  unfold Tag.written
  rw [h.opened_eq]
  cases h with
  | scalar s =>
    cases s with
    | null => exact failsOnly_ok _
    | _ => exact shown
  | list h =>
    exact Tag.failsOnly_texts fun x hx => (h x hx).failsOnly_display.mono fun _ =>
      .of_part (.list hx)
  | tuple h =>
    exact Tag.failsOnly_texts fun x hx => (h x hx).failsOnly_display.mono fun _ =>
      .of_part (.tuple hx)
  | set h =>
    exact Tag.failsOnly_texts fun x hx => (h x hx).failsOnly_display.mono fun _ =>
      .of_part (.set hx)
  | map h => exact shown

theorem failsOnly_kinded (h : v.IsData) :
    FailsOnly (fun failure => (failure = .overflow ∧ v.IsTooLarge) ∨ v.IsTooLong failure)
      v.kinded := by
  unfold kinded
  rw [h.opened_eq]
  cases h with
  | scalar s =>
    cases s with
    | null | date _ | moment _ _ => exact failsOnly_ok _
    | bool _ | int _ | float _ =>
      refine failsOnly_bind ((failsOnly_number _).mono fun _ => .inl) fun n _ => ?_
      split <;> exact failsOnly_ok _
    | text s =>
      have hs : (text s).plain = .ok s := rfl
      exact failsOnly_bind_of_ok hs ((failsOnly_kindOfText s).mono fun _ => .inl)
    | bytes bs =>
      have hs : (Value.scalar (.bytes bs)).plain = .ok (Text.quotedBytes bs) := rfl
      refine failsOnly_bind_of_ok hs ((failsOnly_kindOfText _).mono fun _ hf => ?_)
      rw [Text.quotedBytes, String.toList_ofList] at hf
      exact (Numeral.not_isTooLarge_cons (by decide) (by decide) hf.2).elim
  | list _ | tuple _ | set _ => exact failsOnly_ok _
  | map h =>
    refine failsOnly_bind ((IsData.map h).failsOnly_plain.mono fun _ => .inr) fun s hs => ?_
    obtain ⟨parts, -, hs⟩ := bind_eq_ok.mp hs
    cases hs
    refine (failsOnly_kindOfText (quotedMap parts)).mono fun _ hf => ?_
    rw [quotedMap, String.append_assoc, String.toList_append] at hf
    exact (Numeral.not_isTooLarge_cons (by decide) (by decide) hf.2).elim

/-- Data whose dates can be read resist only for an amount that is too large. -/
theorem defies {phrases : Phrases} (h : v.IsData)
    (hm : v.first.moment phrases ≠ .error .amountTooLarge) (hr : v.Resists phrases failure) :
    v.Defies failure := by
  obtain ⟨hfirst, hlong⟩ := h.first
  cases hr with
  | number hf =>
    obtain ⟨rfl, hv⟩ := v.failsOnly_number _ hf
    exact .number (.inl hv)
  | plain hf =>
    obtain ⟨rfl, hv⟩ := h.failsOnly_plain _ hf
    exact .text hv
  | tags hf =>
    obtain ⟨rfl, hv⟩ := h.failsOnly_written _ hf
    exact .text hv
  | firstNumber hf =>
    obtain ⟨rfl, hv⟩ := v.first.failsOnly_number _ hf
    exact .number (.inr hv)
  | firstPlain hf =>
    obtain ⟨rfl, hv⟩ := hfirst.failsOnly_plain _ hf
    exact .text (hlong hv)
  | firstMoment hf =>
    obtain rfl := v.first.failsOnly_moment phrases _ hf
    exact (hm hf).elim
  | firstKinded hf =>
    obtain ⟨rfl, hv⟩ | ⟨rfl, hv⟩ := hfirst.failsOnly_kinded _ hf
    · exact .number (.inr hv)
    · exact .text (hlong hv)

end IsData
end Value
end NotePlot
