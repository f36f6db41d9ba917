import NotePlot.Proofs.Clause.Grammar
import NotePlot.Proofs.Value.Number
import NotePlot.Proofs.Value.Moment
/-! The order behind comparisons: a value that can be compared with an operand lies to it in exactly
one way, and the six comparisons say the same about it. A range is two comparisons at once. -/
namespace NotePlot

open Text Outcome Clause

variable {now : Reference} {isDateField : String → Bool} {clause f : String} {props : Properties}
  {v : Value} {op : Operator} {x y : Operand} {d : Date} {m m' : Moment} {n a b : Number}
  {s t : String}

namespace Value

/-- Whether a value says something of a kind, so that operands of that kind can be compared with
it. -/
def IsComparable (v : Value) : OperandKind → Prop
  | .date => ∃ d, v.TellsDay d
  | .number => ∃ n, v.number = .ok (some n)
  | .text => v.isNull = false

/-- How a value lies to an operand: dates by their days, numbers by size, and texts by their
characters. -/
inductive Lies (v : Value) : Operand → Ordering → Prop
  | date {d : Date} {m : Moment} (h : v.TellsDay d) :
      Lies v (.date m) (compare d.number m.date.number)
  | less {n b : Number} (h : v.number = .ok (some n)) (hb : n.val < b.val) : Lies v (.number b) .lt
  | same {n b : Number} (h : v.number = .ok (some n)) (hb : n.val == b.val) : Lies v (.number b) .eq
  | greater {n b : Number} (h : v.number = .ok (some n)) (hb : b.val < n.val) :
      Lies v (.number b) .gt
  | text {s t : String} (h : v.plain = .ok s) : Lies v (.text t) (compare s t)

theorem isNull_of_isComparable (kind : OperandKind) (h : v.IsComparable kind) :
    v.isNull = false := by
  cases hn : v.isNull with
  | false => rfl
  | true =>
    have hv : v = null := by
      unfold isNull at hn
      split at hn
      · rfl
      · cases hn
    subst hv
    cases kind with
    | date =>
      obtain ⟨d, hd⟩ := h
      have := day?_eq_some_iff.mpr hd
      cases this
    | number =>
      obtain ⟨n, hn⟩ := h
      cases hn
    | text => exact hn.symm.trans h

theorem lies_of_number (h : v.number = .ok (some n)) (b : Number) :
    v.Lies (.number b) (Condition.compareNumbers n b) := by
  cases ho : Condition.compareNumbers n b with
  | lt => exact .less h (Condition.compareNumbers_eq_lt_iff.mp ho)
  | eq => exact .same h (Condition.compareNumbers_eq_eq_iff.mp ho)
  | gt => exact .greater h (Condition.compareNumbers_eq_gt_iff.mp ho)

end Value

namespace Condition

/-- The comparison of a field with an operand. -/
def comparing (f : String) (op : Operator) (x : Operand) : Condition :=
  ⟨f, op, x.value, x.kind, none⟩

/-- The range of a field between two operands. -/
def within (f : String) (x y : Operand) : Condition :=
  ⟨f, .between, x.value, rangeKind x y, some y.value⟩

theorem number_float (b : Number) : (Value.scalar (.float b.val)).number = .ok (some b) := by
  have hb : Number.of? b.val = some b := dif_pos b.isNumber
  exact congrArg Except.ok hb

theorem holds_of_isNull {c : Condition} (h : (props.get c.field).isNull) :
    c.holds props = .ok false := by
  simp [holds, h]

/-- Null passes no condition, so it is enough that a condition fails under its own kind. -/
theorem holds_eq_false_of_kind {c : Condition} (h : (match c.kind with
      | .date => c.holdsOfDate (props.get c.field)
      | .number => c.holdsOfNumber (props.get c.field)
      | .text => c.holdsOfText (props.get c.field)) = .ok false) : c.holds props = .ok false := by
  by_cases hn : (props.get c.field).isNull
  · exact holds_of_isNull hn
  · rw [holds, if_neg hn]
    exact h

theorem holds_comparing_date (hop : op ∈ Operator.signs) (hv : (props.get f).day? = some d) :
    (comparing f op (.date m)).holds props =
      .ok (op.admits (compare d.number m.date.number)) := by
  have hn := Value.isNull_of_isComparable .date ⟨d, Value.day?_eq_some_iff.mp hv⟩
  simp [comparing, holds, hn, Operand.kind, Operand.value, holdsOfDate, hv, dayBound?,
    Operator.ne_between_of_mem_signs hop, DayBound.order?, Operator.admits?]

theorem holds_comparing_number (hop : op ∈ Operator.signs)
    (hv : (props.get f).number = .ok (some n)) :
    (comparing f op (.number b)).holds props = .ok (op.admits (compareNumbers n b)) := by
  have hn := Value.isNull_of_isComparable .number ⟨n, hv⟩
  simp [comparing, holds, hn, Operand.kind, Operand.value, holdsOfNumber, hv, number_float,
    Operator.ne_between_of_mem_signs hop]

theorem holds_comparing_text (hop : op ∈ Operator.signs) (hn : (props.get f).isNull = false)
    (hv : (props.get f).plain = .ok s) :
    (comparing f op (.text t)).holds props = .ok (op.admits (compare s t)) := by
  have ht : (Value.text t).plain = .ok t := rfl
  simp [comparing, holds, hn, Operand.kind, Operand.value, holdsOfText, hv, ht,
    Operator.ne_between_of_mem_signs hop]

/-- All comparisons of a field with an operand follow from how the value lies to the operand. -/
theorem exists_lies (h : (props.get f).IsComparable x.kind)
    (ht : ∃ s, (props.get f).plain = .ok s) : ∃ o, (props.get f).Lies x o ∧
      ∀ op ∈ Operator.signs, (comparing f op x).holds props = .ok (op.admits o) := by
  cases x with
  | date m =>
    obtain ⟨d, hd⟩ := h
    exact ⟨_, .date hd, fun op hop => holds_comparing_date hop (Value.day?_eq_some_iff.mpr hd)⟩
  | number b =>
    obtain ⟨n, hn⟩ := h
    exact ⟨_, Value.lies_of_number hn b, fun op hop => holds_comparing_number hop hn⟩
  | text t =>
    obtain ⟨s, hs⟩ := ht
    exact ⟨_, .text hs, fun op hop => holds_comparing_text hop h hs⟩

/-- A value that cannot be compared is null, or has no day, or no number. -/
theorem silent_of_not_isComparable (h : ¬ (props.get f).IsComparable x.kind)
    (hn : ∃ r, (props.get f).number = .ok r) : (props.get f).isNull ∨
      (x.kind = .date ∧ (props.get f).day? = none) ∨
      (x.kind = .number ∧ (props.get f).number = .ok none) := by
  cases x with
  | date m =>
    refine .inr (.inl ⟨rfl, Option.eq_none_iff_forall_ne_some.mpr fun d hd => ?_⟩)
    exact h ⟨d, Value.day?_eq_some_iff.mp hd⟩
  | number b =>
    obtain ⟨r, hr⟩ := hn
    cases r with
    | none => exact .inr (.inr ⟨rfl, hr⟩)
    | some n => exact (h ⟨n, hr⟩).elim
  | text t => exact .inl (eq_true_of_ne_false h)

theorem holds_eq_false_of_day? {c : Condition} (hk : c.kind = .date)
    (h : (props.get c.field).day? = none) : c.holds props = .ok false :=
  holds_eq_false_of_kind (by simp [hk, holdsOfDate, h])

theorem holds_eq_false_of_number {c : Condition} (hk : c.kind = .number)
    (h : (props.get c.field).number = .ok none) : c.holds props = .ok false :=
  holds_eq_false_of_kind (by simp [hk, holdsOfNumber, h])

/-- Conditions on a value that says nothing of their kind do not hold. -/
theorem holds_eq_false {c : Condition} (hk : c.kind = x.kind)
    (h : ¬ (props.get c.field).IsComparable x.kind)
    (hn : ∃ r, (props.get c.field).number = .ok r) : c.holds props = .ok false := by
  obtain hnull | ⟨hx, hday⟩ | ⟨hx, hnumber⟩ := silent_of_not_isComparable h hn
  · exact holds_of_isNull hnull
  · exact holds_eq_false_of_day? (hk.trans hx) hday
  · exact holds_eq_false_of_number (hk.trans hx) hnumber

theorem holds_within_date (hv : (props.get f).day? = some d) :
    (within f (.date m) (.date m')).holds props =
      .ok (Operator.ge.admits (compare d.number m.date.number) &&
        Operator.le.admits (compare d.number m'.date.number)) := by
  have hn := Value.isNull_of_isComparable .date ⟨d, Value.day?_eq_some_iff.mp hv⟩
  cases hge : Operator.ge.admits (compare d.number m.date.number) <;>
    simp [within, rangeKind, holds, hn, Operand.kind, Operand.value, holdsOfDate, hv, dayBound?,
      DayBound.order?, Operator.admits?, hge]

theorem admits_ge (n a : Number) :
    Operator.ge.admits (compareNumbers n a) = decide (a.val ≤ n.val) := by
  simp only [Operator.admits, val_le_iff_swap, decide_not]
  cases compareNumbers n a <;> rfl

theorem admits_le (n a : Number) :
    Operator.le.admits (compareNumbers n a) = decide (n.val ≤ a.val) := by
  simp only [Operator.admits, val_le_iff, decide_not]
  cases compareNumbers n a <;> rfl

theorem holds_within_number (hv : (props.get f).number = .ok (some n)) :
    (within f (.number a) (.number b)).holds props =
      .ok (Operator.ge.admits (compareNumbers n a) && Operator.le.admits (compareNumbers n b)) := by
  have hn := Value.isNull_of_isComparable .number ⟨n, hv⟩
  simp [within, rangeKind, holds, hn, Operand.kind, Operand.value, holdsOfNumber, hv, number_float,
    isAtMost, admits_ge, admits_le]

/-- A range between operands of one kind is two comparisons. -/
theorem holds_within (hk : x.kind = y.kind) (ht : x.kind ≠ .text)
    (hn : ∃ r, (props.get f).number = .ok r) : ∃ p q,
      (comparing f .ge x).holds props = .ok p ∧ (comparing f .le y).holds props = .ok q ∧
        (within f x y).holds props = .ok (p && q) := by
  have hge : Operator.ge ∈ Operator.signs := by decide
  have hle : Operator.le ∈ Operator.signs := by decide
  have hrange : (within f x y).kind = x.kind := by
    simp only [within, rangeKind, ← hk]
    split
    next hx => exact hx.symm
    next _ => rfl
  by_cases h : (props.get f).IsComparable x.kind
  · cases x with
    | text s => exact (ht rfl).elim
    | date m =>
      cases y with
      | date m' =>
        obtain ⟨d, hd⟩ := h
        have hd := Value.day?_eq_some_iff.mpr hd
        exact ⟨_, _, holds_comparing_date hge hd, holds_comparing_date hle hd,
          holds_within_date hd⟩
      | _ => cases hk
    | number a =>
      cases y with
      | number b =>
        obtain ⟨n, hn⟩ := h
        exact ⟨_, _, holds_comparing_number hge hn, holds_comparing_number hle hn,
          holds_within_number hn⟩
      | _ => cases hk
  · exact ⟨false, false, holds_eq_false rfl h hn, holds_eq_false rfl (hk ▸ h) hn,
      holds_eq_false hrange h hn⟩

/-- A range of days needs a day at both ends. -/
theorem holds_range_of_no_day {c : Condition} (hk : c.kind = .date) (hop : c.operator = .between)
    (hb : dayBound? c.value = none ∨ c.upper.bind dayBound? = none) :
    c.holds props = .ok false := by
  apply holds_eq_false_of_kind
  simp only [hk, holdsOfDate, hop, if_true]
  rcases hb with hb | hb
  · cases (props.get c.field).day? <;> simp [hb]
  · cases (props.get c.field).day? <;> cases dayBound? c.value <;> simp [hb]

/-- A range of numbers needs a number at its upper end. -/
theorem holds_range_of_no_number (hn : ∃ r, (props.get f).number = .ok r) :
    (within f (.number a) (.text t)).holds props = .ok false := by
  obtain ⟨r, hr⟩ := hn
  apply holds_eq_false_of_kind
  cases r <;> simp [within, rangeKind, Operand.kind, holdsOfNumber, hr, number_float, isAtMost,
    Operand.value, Value.text]

theorem holds_range_of_text {c : Condition} (hk : c.kind = .text) (hop : c.operator = .between) :
    c.holds props = .ok false :=
  holds_eq_false_of_kind (by simp [hk, holdsOfText, hop])

/-- A range between operands of different kinds, or between texts, never holds. -/
theorem holds_within_eq_false (h : x.kind = y.kind → x.kind = .text)
    (hn : ∃ r, (props.get f).number = .ok r) : (within f x y).holds props = .ok false := by
  -- a date at one end makes it a range of days, and then the other end has none
  cases x with
  | date m =>
    cases y with
    | date m' => cases h rfl
    | _ => exact holds_range_of_no_day rfl rfl (.inr rfl)
  | number a =>
    cases y with
    | date m => exact holds_range_of_no_day rfl rfl (.inl rfl)
    | number b => cases h rfl
    | text t => exact holds_range_of_no_number hn
  | text s =>
    cases y with
    | date m => exact holds_range_of_no_day rfl rfl (.inl rfl)
    | _ => exact holds_range_of_text rfl rfl

/-- A field that says nothing of an operand's kind passes none of the six comparisons with it. Any
other lies to the operand in one way, less, the same or greater, and passes just the comparisons
that fit. A clause that is read as a range asks for both of its bounds if they are days, or numbers,
and else never holds. -/
theorem holds_trichotomy (hn : ∃ r, (props.get f).number = .ok r)
    (ht : ∃ s, (props.get f).plain = .ok s) :
    (∀ x : Operand,
      (¬ (props.get f).IsComparable x.kind →
        ∀ op ∈ Operator.signs, (comparing f op x).holds props = .ok false) ∧
      ((props.get f).IsComparable x.kind → ∃ o, (props.get f).Lies x o ∧
        (comparing f .lt x).holds props = .ok (o == .lt) ∧
        (comparing f .eq x).holds props = .ok (o == .eq) ∧
        (comparing f .gt x).holds props = .ok (o == .gt) ∧
        (comparing f .ne x).holds props = .ok (!(o == .eq)) ∧
        (comparing f .le x).holds props = .ok (!(o == .gt)) ∧
        (comparing f .ge x).holds props = .ok (!(o == .lt)))) ∧
    ∀ now isDateField clause k, Clause.read now isDateField clause = .ok k →
      k.operator = .between → k.field = f →
      ∃ lower upper, range? (trim clause.toList) = some (f.toList, lower, upper) ∧ ∃ x y,
        Operand.read now (isDateField f) (String.ofList lower) = .ok x ∧
        Operand.read now (isDateField f) (String.ofList upper) = .ok y ∧
        (x.kind = y.kind → x.kind ≠ .text → ∃ p q,
          (comparing f .ge x).holds props = .ok p ∧ (comparing f .le y).holds props = .ok q ∧
            k.holds props = .ok (p && q)) ∧
        ((x.kind = y.kind → x.kind = .text) → k.holds props = .ok false) := by
  refine ⟨fun x => ⟨fun h op _ => holds_eq_false rfl h hn, fun h => ?_⟩, ?_⟩
  · obtain ⟨o, ho, hall⟩ := exists_lies h ht
    exact ⟨o, ho, hall .lt (by decide), hall .eq (by decide), hall .gt (by decide),
      hall .ne (by decide), hall .le (by decide), hall .ge (by decide)⟩
  · intro now isDateField clause k hk hop hf
    obtain ⟨field, lower, upper, hr, x, y, hx, hy, rfl⟩ | ⟨left, op, right, hs, x, -, rfl⟩ :=
      read_eq_ok hk
    · obtain rfl : String.ofList field = f := hf
      rw [String.toList_ofList]
      exact ⟨lower, upper, hr, x, y, hx, hy, fun hkind hne => holds_within hkind hne hn,
        fun h => holds_within_eq_false h hn⟩
    · exact (Operator.ne_between_of_mem_signs (mem_signs_of_scan hs _ List.mem_cons_self) hop).elim

def dueInMay : Properties := [("due", .text "2024-05-03T10:00")]

theorem holds_trichotomy_dueInMay :
    (∃ r, (dueInMay.get "due").number = .ok r) ∧ (∃ s, (dueInMay.get "due").plain = .ok s) ∧
    (∀ op ∈ Operator.signs, (comparing "due" op (.number .one)).holds dueInMay = .ok false) ∧
    (∃ o, (dueInMay.get "due").Lies (.text "2025") o ∧
      (comparing "due" .lt (.text "2025")).holds dueInMay = .ok (o == .lt) ∧
      (comparing "due" .ge (.text "2025")).holds dueInMay = .ok (!(o == .lt))) ∧
    ∃ k, Clause.read ⟨.null, .ofYear 2024⟩ (fun _ => false) "due between 2024-05-03 and may" =
        .ok k ∧
      k.operator = .between ∧ k.field = "due" ∧ k.holds dueInMay = .ok false := by
  have hn : ∃ r, (dueInMay.get "due").number = .ok r := ⟨none, rfl⟩
  have ht : ∃ s, (dueInMay.get "due").plain = .ok s := ⟨_, rfl⟩
  obtain ⟨compared, ranges⟩ := holds_trichotomy hn ht
  have hno : ¬ (dueInMay.get "due").IsComparable .number := by
    rintro ⟨n, h⟩
    cases h
  obtain ⟨-, texts⟩ := compared (.text "2025")
  obtain ⟨o, ho, hlt, -, -, -, -, hge⟩ := texts rfl
  have hread : Clause.read ⟨.null, .ofYear 2024⟩ (fun _ => false) "due between 2024-05-03 and may" =
      .ok (within "due" (.date (.midnight { year := 2024, month := 5, day := 3 })) (.text "may")) :=
    rfl
  have hlower : Operand.read ⟨.null, .ofYear 2024⟩ false "2024-05-03" =
      .ok (.date (.midnight { year := 2024, month := 5, day := 3 })) := rfl
  have hupper : Operand.read ⟨.null, .ofYear 2024⟩ false "may" = .ok (.text "may") := rfl
  have hbounds : range? (trim "due between 2024-05-03 and may".toList) =
      some ("due".toList, "2024-05-03".toList, "may".toList) := rfl
  obtain ⟨lower, upper, hr, x, y, hx, hy, -, apart⟩ := ranges _ _ _ _ hread rfl rfl
  have hparts := Prod.mk.inj (Option.some.inj (hbounds.symm.trans hr))
  obtain ⟨rfl, rfl⟩ := Prod.mk.inj hparts.2
  obtain rfl := Except.ok.inj (hlower.symm.trans hx)
  obtain rfl := Except.ok.inj (hupper.symm.trans hy)
  exact ⟨hn, ht, (compared (.number .one)).1 hno, ⟨o, ho, hlt, hge⟩, _, hread, rfl, rfl,
    apart nofun⟩

end Condition
end NotePlot
