import NotePlot.Proofs.Clause.Order
import NotePlot.Proofs.Query.FailFast
/-! Conditions as clauses make them: they compare with operands, which suit them. Such a condition
never fails for what it compares with, but only for the value that it is about. -/
namespace NotePlot

open Outcome

variable {phrases : Phrases} {P : Failure → Prop} {props : Properties}

namespace Condition

variable {c : Condition}

/-- A condition as clauses make it: of operands, not of whatever a host may put there. -/
def IsRead (c : Condition) : Prop :=
  (∃ f op x, c = comparing f op x) ∨ ∃ f x y, c = within f x y

/-- Days of notes are in an order with every operand, as no operand is tied to a time zone. -/
theorem exists_admits?_dayBound {x : Operand} {bound : DayBound} (h : dayBound? x.value = some bound)
    (op : Operator) (day : Date) : ∃ b, op.admits? (bound.order? day) = .ok b := by
  cases x with
  | text s => cases h
  | number n => cases h
  | date m =>
    cases h
    exact ⟨_, rfl⟩

theorem exists_holdsOfDate (hc : c.IsRead) (v : Value) : ∃ b, c.holdsOfDate v = .ok b := by
  have hvalue : ∃ x : Operand, c.value = x.value := by
    obtain ⟨f, op, x, rfl⟩ | ⟨f, x, y, rfl⟩ := hc
    · exact ⟨x, rfl⟩
    · exact ⟨x, rfl⟩
  have hupper : ∀ w, c.upper = some w → ∃ y : Operand, w = y.value := by
    obtain ⟨f, op, x, rfl⟩ | ⟨f, x, y, rfl⟩ := hc
    · exact nofun
    · rintro _ ⟨⟩
      exact ⟨y, rfl⟩
  obtain ⟨x, hx⟩ := hvalue
  unfold holdsOfDate
  split
  next day bound _ hbound =>
    rw [hx] at hbound
    split
    next =>
      split
      next last hlast =>
        obtain ⟨w, hw, hlast⟩ := Option.bind_eq_some_iff.mp hlast
        obtain ⟨y, rfl⟩ := hupper w hw
        obtain ⟨b, hb⟩ := exists_admits?_dayBound hbound .ge day
        obtain ⟨b', hb'⟩ := exists_admits?_dayBound hlast .le day
        rw [hb]
        cases b with
        | true => exact ⟨b', hb'⟩
        | false => exact ⟨false, rfl⟩
      next => exact ⟨false, rfl⟩
    next => exact exists_admits?_dayBound hbound c.operator day
  next => exact ⟨false, rfl⟩

/-- The value of a condition suits its kind, ranges of dates apart. -/
theorem suits_of_isRead (hc : c.IsRead) (hk : c.kind ≠ .date) : c.kind.Suits c.value := by
  obtain ⟨f, op, x, rfl⟩ | ⟨f, x, y, rfl⟩ := hc
  · exact x.suits_value
  · have hrange : Clause.rangeKind x y = x.kind := by
      refine if_neg fun hy => hk ?_
      exact if_pos hy
    exact (show (within f x y).kind = x.kind from hrange) ▸ x.suits_value

/-- Where a condition fails, the value that it is about resists. -/
theorem failsOnly_of_isRead (hc : c.IsRead) (hp : props.ResistOnly phrases P) :
    FailsOnly P (c.holds props) := by
  refine c.failsOnly_holds hp (fun _ => ?_) (fun hk => ?_) fun hk => ?_
  · obtain ⟨b, hb⟩ := exists_holdsOfDate hc (props.get c.field)
    exact failsOnly_of_ok hb
  · obtain ⟨y, -, hy⟩ := hk ▸ suits_of_isRead hc (by simp [hk])
    rw [hy]
    exact failsOnly_ok _
  · obtain ⟨s, hs⟩ := hk ▸ suits_of_isRead hc (by simp [hk])
    rw [hs]
    exact failsOnly_of_ok (show (Value.text s).plain = .ok s from rfl)

end Condition

theorem Clause.isRead_of_readAll {now : Reference} {isDateField : String → Bool}
    {clauses : List String} {ks : List Condition} (h : readAll now isDateField clauses = .ok ks) :
    ∀ k ∈ ks, k.IsRead := by
  induction clauses generalizing ks with
  | nil =>
    cases h
    simp
  | cons clause rest ih =>
    obtain ⟨k, hk⟩ := exists_readAll_iff.mp ⟨ks, h⟩ clause List.mem_cons_self
    rw [readAll_cons_of_read hk] at h
    obtain ⟨later, hl, h⟩ := bind_eq_ok.mp h
    cases h
    refine List.forall_mem_cons.mpr ⟨?_, ih hl⟩
    obtain ⟨_, _, _, -, x, y, -, -, rfl⟩ | ⟨_, op, _, -, x, -, rfl⟩ := read_eq_ok hk
    · exact .inr ⟨_, x, y, rfl⟩
    · exact .inl ⟨_, op, x, rfl⟩

end NotePlot
