import NotePlot.Proofs.Metric.PropertyType
/-! Headlines: what is measured of a property suits the type that the property seems to have, so
that there always is a value, and no sum, mean or extreme is taken of nothing. -/
namespace NotePlot

open Outcome

variable {f : String} {notes : List Note} {ks all : List Kinded} {m : Measure} {type : PropertyType}
  {field : Option String} {wanted : Option Measure} {r : Row Float} {v : Value}

namespace PropertyType

/-- A type is guessed from the first of the values that notes have in the field. -/
theorem sample_of_spoken (h : Headline.spoken f notes = .ok all) (n : Nat) :
    sample f n notes = .ok (all.take n) := by
  induction notes generalizing n all with
  | nil =>
    cases h
    cases n <;> rfl
  | cons note rest ih =>
    cases n with
    | zero => rfl
    | succ n =>
      obtain ⟨k, hk, h⟩ := bind_eq_ok.mp h
      rw [sample, hk, ok_bind]
      cases k with
      | missing => exact ih h (n + 1)
      | list | date | number | text =>
        obtain ⟨later, hlater, h⟩ := bind_eq_ok.mp h
        cases h
        simp only [ih hlater n, ok_bind, List.take_succ_cons]
        rfl

theorem exists_number_of_ofSample (h : ofSample ks = .number) : ∃ n, .number n ∈ ks := by
  obtain ⟨hsome, hle⟩ := (ofSample_iff ks).2.1.mp h
  have hpos : 0 < numberCount ks := by omega
  obtain ⟨k, hk, hnumber⟩ := List.countP_pos_iff.mp hpos
  cases k with
  | number n => exact ⟨n, hk⟩
  | _ => cases hnumber

theorem exists_date_of_ofSample (h : ofSample ks = .date) : ∃ d, .date d ∈ ks := by
  have hlt := (ofSample_iff ks).2.2.mp h
  have hpos : 0 < dateCount ks := by omega
  obtain ⟨k, hk, hdate⟩ := List.countP_pos_iff.mp hpos
  cases k with
  | date d => exact ⟨d, hk⟩
  | _ => cases hdate

end PropertyType

namespace Measure

/-- A measure of numbers is taken of some number, and a measure of dates of some date. -/
structure IsSupplied (m : Measure) (numbers : List Float) (dates : List Moment) : Prop where
  numbers : m = .sum ∨ m = .mean ∨ m = .min ∨ m = .max → numbers ≠ []
  dates : m = .oldest ∨ m = .newest ∨ m = .dateRange → dates ≠ []

theorem usual_mem_allowed (type : PropertyType) (hasField : Bool) :
    usual hasField ∈ allowed type hasField := by
  cases hasField <;> cases type <;> decide

theorem effective_mem_allowed (wanted : Option Measure) (type : PropertyType) (hasField : Bool) :
    effective wanted type hasField ∈ allowed type hasField := by
  unfold effective
  split
  · split
    next hm => exact hm
    next => exact usual_mem_allowed type hasField
  · exact usual_mem_allowed type hasField

/-- Only of a property that holds numbers are numbers measured, and only of one that holds dates,
dates. -/
theorem type_of_mem_measures (h : m ∈ type.measures) :
    (m = .sum ∨ m = .mean ∨ m = .min ∨ m = .max → type = .number) ∧
      (m = .oldest ∨ m = .newest ∨ m = .dateRange → type = .date) := by
  cases type <;> cases m <;> simp_all [PropertyType.measures]

theorem value_ne_null {xs : List Float} {ms : List Moment} (hm : m ≠ .countAll)
    (h : m.IsSupplied xs ms) (count : Nat) : m.value xs ms count ≠ .null := by
  have hnumbers := h.numbers
  have hdates := h.dates
  intro hnull
  cases m with
  | countAll => exact hm rfl
  | countNonEmpty | sum => cases hnull
  | mean | min | max =>
    obtain ⟨x, rest, rfl⟩ := List.exists_cons_of_ne_nil (hnumbers (by simp))
    cases hnull
  | oldest | newest | dateRange =>
    obtain ⟨d, rest, rfl⟩ := List.exists_cons_of_ne_nil (hdates (by simp))
    cases hnull

end Measure

namespace Headline

theorem numbers_ne_nil {n : Number} (h : .number n ∈ ks) : numbers ks ≠ [] :=
  List.ne_nil_of_mem (List.mem_filterMap.mpr ⟨_, h, rfl⟩)

theorem dates_ne_nil {d : Moment} (h : .date d ∈ ks) : dates ks ≠ [] :=
  List.ne_nil_of_mem (List.mem_filterMap.mpr ⟨_, h, rfl⟩)

/-- The type comes from values among those that are measured, so there are values of that type. -/
theorem isSupplied_of_detect (h : spoken f notes = .ok ks)
    (ht : PropertyType.detect (some f) notes = .ok type) (hm : m ∈ type.measures) :
    m.IsSupplied (numbers ks) (dates ks) := by
  have hsample : type = PropertyType.ofSample (ks.take PropertyType.sampleSize) := by
    rw [PropertyType.detect, PropertyType.sample_of_spoken h] at ht
    exact (Except.ok.inj ht).symm
  obtain ⟨hnumber, hdate⟩ := Measure.type_of_mem_measures hm
  constructor
  · intro hof
    obtain ⟨n, hn⟩ := PropertyType.exists_number_of_ofSample (hsample.symm.trans (hnumber hof))
    exact numbers_ne_nil (List.mem_of_mem_take hn)
  · intro hof
    obtain ⟨d, hd⟩ := PropertyType.exists_date_of_ofSample (hsample.symm.trans (hdate hof))
    exact dates_ne_nil (List.mem_of_mem_take hd)

/-- A value comes from counting all notes, or from the one time that a measure is taken of what they
say. -/
theorem valueOf_cases (h : valueOf m field notes = .ok v) :
    m = .countAll ∧ v = .scalar (.int notes.length) ∨
    m ≠ .countAll ∧ field = none ∨
    m ≠ .countAll ∧ ∃ f ks, field = some f ∧ spoken f notes = .ok ks ∧
      v = m.value (numbers ks) (dates ks) ks.length := by
  unfold valueOf at h
  split at h
  next =>
    cases h
    exact .inl ⟨rfl, rfl⟩
  next f hm =>
    obtain ⟨ks, hks, h⟩ := bind_eq_ok.mp h
    cases h
    exact .inr (.inr ⟨hm, f, ks, rfl, hks, rfl⟩)
  next hm => exact .inr (.inl ⟨hm, rfl⟩)

/-- A headline is measured in a way that its property allows, the wanted one if it can be. It counts
all notes, or else it takes a measure that is supplied; so it always has a value. Without a field it
counts all notes. -/
theorem row_isMeasured (h : row notes field wanted = .ok r) : ∃ type m v,
    PropertyType.detect (named field) notes = .ok type ∧
    m = Measure.effective wanted type (named field).isSome ∧
    m ∈ Measure.allowed type (named field).isSome ∧
    r.x = .text (Choice.name m) ∧
    r.properties = some [("metric_value", v), ("metric_data_type", .text (Choice.name type)),
      ("metric_operation", .text (Choice.name m))] ∧
    v ≠ .null ∧
    (m = .countAll ∧ v = .scalar (.int notes.length) ∨
      m ≠ .countAll ∧ ∃ f ks, named field = some f ∧ spoken f notes = .ok ks ∧
        m.IsSupplied (numbers ks) (dates ks) ∧ v = m.value (numbers ks) (dates ks) ks.length) ∧
    (field = none ∨ field = some "" → m = .countAll ∧ v = .scalar (.int notes.length)) := by
  obtain ⟨type, htype, h⟩ := bind_eq_ok.mp h
  obtain ⟨v, hv, h⟩ := bind_eq_ok.mp h
  cases h
  have hallowed := Measure.effective_mem_allowed wanted type (named field).isSome
  refine ⟨type, _, v, htype, rfl, hallowed, rfl, rfl, ?_⟩
  generalize Measure.effective wanted type (named field).isSome = m at hv hallowed
  have hnone (hf : named field = none) : m = .countAll := by
    rw [hf] at hallowed
    exact List.mem_singleton.mp hallowed
  have hfield (hf : field = none ∨ field = some "") : named field = none := by
    rcases hf with rfl | rfl <;> rfl
  rcases valueOf_cases hv with ⟨hm, hv⟩ | ⟨hm, hf⟩ | ⟨hm, f, ks, hf, hks, hv⟩
  · refine ⟨?_, .inl ⟨hm, hv⟩, fun _ => ⟨hm, hv⟩⟩
    intro hnull
    cases hv.symm.trans hnull
  · exact (hm (hnone hf)).elim
  · rw [hf] at hallowed htype
    have hsupplied := isSupplied_of_detect hks htype hallowed
    refine ⟨?_, .inr ⟨hm, f, ks, hf, hks, hsupplied, hv⟩, fun hnofield => ?_⟩
    · rw [hv]
      exact Measure.value_ne_null hm hsupplied ks.length
    · exact (hm (hnone (hfield hnofield))).elim

def meeting : Note := ⟨"meeting.md", [("due", .text "2024-01-10")]⟩

def review : Note := ⟨"review.md", [("due", .list [.text "2024-02-01T09:30", .text "draft"])]⟩

def draft : Note := ⟨"draft.md", [("due", .scalar (.bool true)), ("pages", .text "ten")]⟩

/-- The latest of two dates, in a field that holds a truth value as well. -/
theorem row_isMeasured_newest :
    ∃ r v, row [meeting, draft, review] (some "due") (some .newest) = .ok r ∧
      r.x = .text "newest" ∧
      r.properties = some [("metric_value", v), ("metric_data_type", .text "date"),
        ("metric_operation", .text "newest")] ∧ v ≠ .null ∧
      ∃ ks, spoken "due" [meeting, draft, review] = .ok ks ∧ dates ks ≠ [] ∧
        v = Measure.newest.value (numbers ks) (dates ks) ks.length := by
  obtain ⟨r, hr⟩ : ∃ r, row [meeting, draft, review] (some "due") (some .newest) = .ok r := ⟨_, rfl⟩
  obtain ⟨type, m, v, htype, hm, -, hx, hproperties, hv, hmeasured, -⟩ := row_isMeasured hr
  have hdate : PropertyType.detect (some "due") [meeting, draft, review] = .ok .date := rfl
  obtain rfl := Except.ok.inj (htype.symm.trans hdate)
  obtain rfl : m = .newest := hm
  rcases hmeasured with ⟨hcount, -⟩ | ⟨-, f, ks, hf, hks, hsupplied, hvalue⟩
  · cases hcount
  · obtain rfl := Option.some.inj hf
    exact ⟨r, v, hr, hx, hproperties, hv, ks, hks, hsupplied.dates (by simp), hvalue⟩

end Headline
end NotePlot
