import NotePlot.Metric.Headline
import NotePlot.Proofs.Value.Kind
import NotePlot.Proofs.Value.Reading

/-! The type of a property: a guess from the first twenty values that notes have in the field. Notes
that say nothing there are passed over, and what comes after the twentieth value is not looked at.
-/
namespace NotePlot

open Text Outcome

variable {v : Value} {vs : List Value} {ks : List Kinded} {f : String} {field : Option String}
  {note : Note} {notes others : List Note}

/-- What a note says in a field, a list through its first item. Without the property, or without a
field that has a name, that is null. -/
def Note.scalarIn (field : Option String) (note : Note) : Value :=
  match Headline.named field with
  | none => .null
  | some f => (note.properties.get f).first

namespace PropertyType

/-- The values that are not missing, in the order of the notes. -/
def said (field : Option String) (notes : List Note) : List Value :=
  (notes.map (Note.scalarIn field)).filter fun v => !v.hasKind Kinded.isMissing

/-- Two lists of notes that come from each other by putting in notes that say nothing in a field,
and by taking out such notes, anywhere. -/
inductive DifferInSilence (field : Option String) : List Note → List Note → Prop
  | nil : DifferInSilence field [] []
  | both (note : Note) {notes others : List Note} (h : DifferInSilence field notes others) :
      DifferInSilence field (note :: notes) (note :: others)
  | putIn {note : Note} {notes others : List Note} (hs : (note.scalarIn field).SaysNothing)
      (h : DifferInSilence field notes others) : DifferInSilence field notes (note :: others)
  | takenOut {note : Note} {notes others : List Note} (hs : (note.scalarIn field).SaysNothing)
      (h : DifferInSilence field notes others) : DifferInSilence field (note :: notes) others

/-- The type for which most values speak: text if no value is a number or a date, and else number
unless dates are more. -/
structure IsMajority (vs : List Value) (type : PropertyType) : Prop where
  text : type = .text ↔ ∀ v ∈ vs, ¬ v.hasKind Kinded.isNumber ∧ ¬ v.hasKind Kinded.isDate
  number : type = .number ↔ (∃ v ∈ vs, v.hasKind Kinded.isNumber ∨ v.hasKind Kinded.isDate) ∧
    vs.countP (Value.hasKind Kinded.isDate) ≤ vs.countP (Value.hasKind Kinded.isNumber)
  date : type = .date ↔
    vs.countP (Value.hasKind Kinded.isNumber) < vs.countP (Value.hasKind Kinded.isDate)

theorem said_cons_of_missing (h : (note.scalarIn field).kinded = .ok .missing) :
    said field (note :: notes) = said field notes := by
  rw [said, List.map_cons, List.filter_cons_of_neg, said]
  simp [Value.hasKind_isMissing_iff.mpr h]

theorem said_cons_of_ne (h : (note.scalarIn field).kinded ≠ .ok .missing) :
    said field (note :: notes) = note.scalarIn field :: said field notes := by
  rw [said, List.map_cons, List.filter_cons_of_pos, said]
  simpa using mt Value.hasKind_isMissing_iff.mp h

theorem said_append (before after : List Note) :
    said field (before ++ after) = said field before ++ said field after := by
  rw [said, List.map_append, List.filter_append]
  rfl

theorem said_of_not_named (hf : Headline.named field = none) (notes : List Note) :
    said field notes = [] := by
  induction notes with
  | nil => rfl
  | cons note rest ih =>
    have hnull : note.scalarIn field = .null := by rw [Note.scalarIn, hf]
    rw [said_cons_of_missing (by rw [hnull]; rfl), ih]

theorem said_of_differInSilence (h : DifferInSilence field notes others) :
    said field others = said field notes := by
  induction h with
  | nil => rfl
  | @both note notes others h ih =>
    calc said field (note :: others)
      _ = said field [note] ++ said field others := said_append [note] others
      _ = said field [note] ++ said field notes := by rw [ih]
      _ = said field (note :: notes) := (said_append [note] notes).symm
  | putIn hs h ih => rw [said_cons_of_missing (Value.kinded_of_saysNothing hs), ih]
  | takenOut hs h ih => rw [said_cons_of_missing (Value.kinded_of_saysNothing hs), ih]

/-- What is sampled are the kinds of the first values that are said. -/
theorem sample_eq (hf : Headline.named field = some f) (n : Nat) (notes : List Note) :
    sample f n notes = ((said field notes).take n).mapM Value.kinded := by
  -- only a note that says something takes one off the count, so the count is general
  induction notes generalizing n with
  | nil =>
    rw [said, List.map_nil, List.filter_nil, List.take_nil]
    cases n <;> rfl
  | cons note rest ih =>
    cases n with
    | zero => rfl
    | succ n =>
      have hscalar : note.scalarIn field = (note.properties.get f).first := by
        rw [Note.scalarIn, hf]
      have hkinded : note.kinded f = (note.scalarIn field).kinded := by
        rw [hscalar, Note.kinded]
      rw [sample, hkinded]
      by_cases hm : (note.scalarIn field).kinded = .ok .missing
      · rw [said_cons_of_missing hm, hm]
        exact ih (n + 1)
      · rw [said_cons_of_ne hm, List.take_succ_cons, List.mapM_cons, ← ih n]
        cases hk : (note.scalarIn field).kinded with
        | error failure => rfl
        | ok k =>
          cases k with
          | missing => exact (hm hk).elim
          | list | date | number | text => rfl

/-- The type depends on nothing but the first values that are said. -/
theorem detect_eq (field : Option String) (notes : List Note) :
    detect (Headline.named field) notes =
      (((said field notes).take sampleSize).mapM Value.kinded >>= fun ks => .ok (ofSample ks)) := by
  cases hf : Headline.named field with
  | none =>
    rw [said_of_not_named hf]
    rfl
  | some f =>
    rw [detect, sample_eq hf]
    rfl

theorem countP_of_mapM {p : Kinded → Bool} (h : vs.mapM Value.kinded = .ok ks) :
    ks.countP p = vs.countP (Value.hasKind p) := by
  induction vs generalizing ks with
  | nil =>
    cases h
    rfl
  | cons v vs ih =>
    rw [List.mapM_cons] at h
    obtain ⟨k, hk, h⟩ := bind_eq_ok.mp h
    obtain ⟨later, hlater, h⟩ := bind_eq_ok.mp h
    cases h
    rw [List.countP_cons, List.countP_cons, ih hlater, Value.hasKind_of_kinded hk]

theorem ofSample_iff (ks : List Kinded) :
    (ofSample ks = .text ↔ numberCount ks = 0 ∧ dateCount ks = 0) ∧
    (ofSample ks = .number ↔
      ¬ (numberCount ks = 0 ∧ dateCount ks = 0) ∧ dateCount ks ≤ numberCount ks) ∧
    (ofSample ks = .date ↔ numberCount ks < dateCount ks) := by
  unfold ofSample
  split
  next hnone => simp [hnone]
  next hsome =>
    split
    next hle => simp [hsome, hle]
    next hgt =>
      have hlt := Nat.lt_of_not_le hgt
      simp [hsome, hgt, hlt]

theorem isMajority_ofSample (h : vs.mapM Value.kinded = .ok ks) : IsMajority vs (ofSample ks) := by
  have hnumbers : numberCount ks = vs.countP (Value.hasKind Kinded.isNumber) := countP_of_mapM h
  have hdates : dateCount ks = vs.countP (Value.hasKind Kinded.isDate) := countP_of_mapM h
  have hnone : (∀ v ∈ vs, ¬ v.hasKind Kinded.isNumber ∧ ¬ v.hasKind Kinded.isDate) ↔
      numberCount ks = 0 ∧ dateCount ks = 0 := by
    rw [hnumbers, hdates, List.countP_eq_zero, List.countP_eq_zero, ← forall₂_and]
  have hsome : (∃ v ∈ vs, v.hasKind Kinded.isNumber ∨ v.hasKind Kinded.isDate) ↔
      ¬ (numberCount ks = 0 ∧ dateCount ks = 0) := by
    simp only [← hnone, not_forall, not_and_or, not_not, exists_prop]
  obtain ⟨htext, hnumber, hdate⟩ := ofSample_iff ks
  constructor
  · rw [htext, hnone]
  · rw [hnumber, hsome, hnumbers, hdates]
  · rw [hdate, hnumbers, hdates]

theorem mem_said_iff (hv : v.IsProper) : v ∈ said field notes ↔
    (∃ note ∈ notes, note.scalarIn field = v) ∧ ¬ v.SaysNothing := by
  have hmissing : (!v.hasKind Kinded.isMissing) = true ↔ ¬ v.SaysNothing := by
    rw [← Value.kinded_eq_missing_iff hv, ← Value.hasKind_isMissing_iff, Bool.not_eq_true',
      Bool.not_eq_true]
  rw [said, List.mem_filter, List.mem_map, hmissing]

theorem detect_congr (h : (said field notes).take sampleSize = (said field others).take sampleSize) :
    detect (Headline.named field) notes = detect (Headline.named field) others := by
  rw [detect_eq, detect_eq, h]

theorem take_said_append {before : List Note} {n : Nat} (h : n ≤ (said field before).length)
    (after : List Note) : (said field (before ++ after)).take n = (said field before).take n := by
  rw [said_append, List.take_append_of_le_length h]

theorem exists_kinded_of_mapM (h : vs.mapM Value.kinded = .ok ks) :
    ∀ v ∈ vs, ∃ k, v.kinded = .ok k := by
  induction vs generalizing ks with
  | nil => exact fun v hv => (List.not_mem_nil hv).elim
  | cons v vs ih =>
    rw [List.mapM_cons] at h
    obtain ⟨k, hk, h⟩ := bind_eq_ok.mp h
    obtain ⟨later, hlater, -⟩ := bind_eq_ok.mp h
    exact List.forall_mem_cons.mpr ⟨⟨k, hk⟩, ih hlater⟩

/-- Where no type can be guessed, one of the values sampled has no kind. -/
theorem exists_error_of_detect {failure : Failure}
    (h : detect (Headline.named field) notes = .error failure) :
    ∃ v ∈ (said field notes).take sampleSize, v.kinded = .error failure := by
  have hvalues : FailsOnly (fun failure => ∃ v ∈ (said field notes).take sampleSize,
      v.kinded = .error failure) (((said field notes).take sampleSize).mapM Value.kinded) :=
    failsOnly_mapM fun v hv _ hk => ⟨v, hv, hk⟩
  rw [detect_eq] at h
  exact failsOnly_bind hvalues (fun ks _ => failsOnly_ok _) failure h

/-- The type of a field stays the same if notes that say nothing in it come or go, and whatever
happens to the notes after those with the first twenty values. It is the type for which most of
these values speak. Only a value without a kind among them keeps it from being told: for data, a
number that is too large or an integer of too many digits. -/
theorem detect_isMajority (field : Option String) (notes : List Note) :
    (∀ others, DifferInSilence field notes others →
      detect (Headline.named field) others = detect (Headline.named field) notes) ∧
    (∀ before after others, notes = before ++ after → 20 ≤ (said field before).length →
      detect (Headline.named field) (before ++ others) = detect (Headline.named field) notes) ∧
    (∀ v, v.IsProper → (v ∈ said field notes ↔
      (∃ note ∈ notes, note.scalarIn field = v) ∧ ¬ v.SaysNothing)) ∧
    (∀ failure, detect (Headline.named field) notes = .error failure →
      ∃ v ∈ (said field notes).take 20, v.kinded = .error failure ∧
        (v.IsData → failure = .overflow ∧ v.IsTooLarge ∨ v.IsTooLong failure)) ∧
    ∀ type, detect (Headline.named field) notes = .ok type →
      (∀ v ∈ (said field notes).take 20, ∃ k, v.kinded = .ok k) ∧
        IsMajority ((said field notes).take 20) type := by
  refine ⟨fun others h => ?_, fun before after others hnotes h => ?_, fun v => mem_said_iff,
    fun failure h => ?_, fun type h => ?_⟩
  · exact detect_congr (by rw [said_of_differInSilence h])
  · subst hnotes
    exact detect_congr ((take_said_append h others).trans (take_said_append h after).symm)
  · obtain ⟨v, hv, hk⟩ := exists_error_of_detect h
    exact ⟨v, hv, hk, fun hdata => hdata.failsOnly_kinded failure hk⟩
  · rw [detect_eq] at h
    obtain ⟨ks, hks, h⟩ := bind_eq_ok.mp h
    cases h
    exact ⟨exists_kinded_of_mapM hks, isMajority_ofSample hks⟩

/-- A note with one property. -/
def dueNote (due : Value) : Note := ⟨"a.md", [("due", due)]⟩

def flagged : Note := dueNote (.scalar (.bool true))

def dated : Note := dueNote (.text "2024-01-10")

/-- A number and a date, with every sort of note that says nothing around them; and after twenty
dates an amount too large for a kind. -/
theorem detect_isMajority_due :
    DifferInSilence (some "due") [flagged, dated]
      [⟨"b.md", []⟩, dueNote .null, flagged, dueNote (.scalar (.float (0.0 / 0.0))),
        dueNote (.text " \t"), dated, dueNote (.list [])] ∧
    detect (some "due")
      [⟨"b.md", []⟩, dueNote .null, flagged, dueNote (.scalar (.float (0.0 / 0.0))),
        dueNote (.text " \t"), dated, dueNote (.list [])] = .ok .number ∧
    IsMajority ((said (some "due") [flagged, dated]).take 20) .number ∧
    20 ≤ (said (some "due") (List.replicate 20 dated)).length ∧
    detect (some "due") (List.replicate 20 dated ++ [dueNote (.scalar (.int (Nat.pow 10 400)))]) =
      .ok .date := by
  have hsilent : DifferInSilence (some "due") [flagged, dated]
      [⟨"b.md", []⟩, dueNote .null, flagged, dueNote (.scalar (.float (0.0 / 0.0))),
        dueNote (.text " \t"), dated, dueNote (.list [])] := by
    refine .putIn .null (.putIn .null (.both _ (.putIn (.nan ?_) (.putIn (.blank ?_)
      (.both _ (.putIn .null .nil))))))
    · decide +kernel
    · decide +kernel
  have htie : detect (some "due") [flagged, dated] = .ok .number := rfl
  have htwenty : 20 ≤ (said (some "due") (List.replicate 20 dated)).length := by decide +kernel
  have hdates : detect (some "due") (List.replicate 20 dated ++ []) = .ok .date :=
    toOption_eq_some_iff.mp (by decide +kernel)
  obtain ⟨hothers, -, -, -, htype⟩ := detect_isMajority (some "due") [flagged, dated]
  obtain ⟨-, hlater, -⟩ := detect_isMajority (some "due") (List.replicate 20 dated ++ [])
  exact ⟨hsilent, (hothers _ hsilent).trans htie, (htype _ htie).2, htwenty,
    (hlater _ _ _ rfl htwenty).trans hdates⟩

/-- An amount of four hundred digits has no kind, so no type is told of a field that holds one. -/
theorem detect_hugeAmount : (Value.scalar (.int (Nat.pow 10 400))).IsData ∧
    detect (Headline.named (some "due")) [dueNote (.scalar (.int (Nat.pow 10 400)))] =
      .error .overflow :=
  ⟨.scalar _, failure?_eq_some_iff.mp (by decide +kernel)⟩

end PropertyType
end NotePlot
