import NotePlot.Chart.Reading
import NotePlot.Proofs.Failure.Chart
import NotePlot.Proofs.Text.Blank
import NotePlot.Proofs.Value.Printable
/-! Charts in normal form. Whatever a specification says, it is refused or read as a chart whose
choices are legal and whose channels are neither empty nor padded. Such a chart is written as a
specification that is read as the same chart. -/
namespace NotePlot

open Text Outcome

variable {v : Value} {es inner : Entries} {part key : String} {label : Option String}
  {field : Option FieldName} {c : Chart}

/-- A text with something in it, and without blanks at its ends. -/
def IsLabel (s : String) : Prop := s ≠ "" ∧ strip s = s

instance (s : String) : Decidable (IsLabel s) := inferInstanceAs (Decidable (_ ∧ _))

/-- A closed list that is complete, under names that are all different. -/
class LawfulChoice (α : Type) [Choice α] : Prop where
  ofName?_name (a : α) : Choice.ofName? (Choice.name a) = some a
  isLabel_name (a : α) : IsLabel (Choice.name a)

instance : LawfulChoice ChartType where
  ofName?_name a := by cases a <;> rfl
  isLabel_name a := by cases a <;> decide

instance : LawfulChoice Reduction where
  ofName?_name a := by cases a <;> rfl
  isLabel_name a := by cases a <;> decide

instance : LawfulChoice Measure where
  ofName?_name a := by cases a <;> rfl
  isLabel_name a := by cases a <;> decide

instance : LawfulChoice Bucket where
  ofName?_name a := by cases a <;> rfl
  isLabel_name a := by cases a <;> decide

instance : LawfulChoice Direction where
  ofName?_name a := by cases a <;> rfl
  isLabel_name a := by cases a <;> decide

theorem Choice.name_mem_names {α : Type} [Choice α] [LawfulChoice α] (a : α) :
    Choice.name a ∈ Choice.names α :=
  List.mem_map_of_mem (List.mem_of_find?_eq_some (LawfulChoice.ofName?_name a))

theorem lower_name_bucket (b : Bucket) : lower (Choice.name b) = Choice.name b := by
  cases b <;> decide

namespace FieldName

theorem of?_text (f : FieldName) : of? f.text = some f := dif_neg f.isNamed

theorem text_of_of? {f : FieldName} {s : String} (h : of? s = some f) : f.text = s := by
  unfold of? at h
  split at h
  · cases h
  · cases h
    rfl

end FieldName

/-- What stands for each channel, if anything does. -/
def Encoding.channels (e : Encoding) : List (Option FieldName) :=
  [e.x, e.y, e.series, e.start, e.finish, e.due, e.scheduled, e.duration, e.group, e.label]

namespace Chart

theorem displays_texts (ss : List String) : texts.displays (ss.map Value.text) = .ok ss := by
  induction ss with
  | nil => rfl
  | cons s ss ih =>
    rw [List.map_cons, texts.displays, ih]
    rfl

theorem texts_of_lookup {ss : List String} (h : Value.lookup es key = .texts ss) :
    texts es part key = .ok ss := by
  rw [texts, h]
  exact displays_texts ss

theorem entries_of_lookup (h : Value.lookup es part = .map inner) : entries es part = .ok inner := by
  rw [entries, h]
  rfl

theorem label?_of_lookup (h : Value.lookup es key = .ofText? label)
    (hl : ∀ s ∈ label, IsLabel s) : label? es key = .ok label := by
  rw [label?, h]
  cases label with
  | none => rfl
  | some s =>
    obtain ⟨hne, hs⟩ := hl s rfl
    change Except.ok (if (strip s).isEmpty then none else some (strip s)) = _
    rw [hs, if_neg (by simpa using hne)]

theorem field?_of_lookup (h : Value.lookup es key = .ofField? field)
    (hf : ∀ f ∈ field, IsLabel f.text) : field? es key = .ok field := by
  have hlabel : label? es key = .ok (field.map FieldName.text) := by
    refine label?_of_lookup h fun s hs => ?_
    obtain ⟨f, hmem, rfl⟩ := Option.map_eq_some_iff.mp hs
    exact hf f hmem
  rw [field?, hlabel, ok_bind]
  cases field with
  | none => rfl
  | some f => exact congrArg Except.ok f.of?_text

theorem choice?_of_lookup {α : Type} [Choice α] [LawfulChoice α] {a : Option α} {what : String}
    (h : Value.lookup es key = .ofChoice? a) : choice? α es what key = .ok a := by
  have hlabel : label? es key = .ok (a.map Choice.name) := by
    refine label?_of_lookup h fun s hs => ?_
    obtain ⟨b, -, rfl⟩ := Option.map_eq_some_iff.mp hs
    exact LawfulChoice.isLabel_name b
  rw [choice?, hlabel, ok_bind]
  cases a with
  | none => rfl
  | some b =>
    simp only [Option.map_some, LawfulChoice.ofName?_name]
    rfl

theorem readFeed_of_toValue {feed : Feed} (h : feed.toValue = .map es) : readFeed es = .ok feed := by
  cases h
  rw [readFeed, texts_of_lookup rfl, ok_bind, texts_of_lookup rfl, ok_bind, texts_of_lookup rfl,
    ok_bind]
  rfl

theorem readEncoding_of_toValue {e : Encoding} (h : e.toValue = .map es)
    (hc : ∀ channel ∈ e.channels, ∀ f ∈ channel, IsLabel f.text) : readEncoding es = .ok e := by
  simp only [Encoding.channels, List.forall_mem_cons] at hc
  obtain ⟨hx, hy, hseries, hstart, hfinish, hdue, hscheduled, hduration, hgroup, hlabel, -⟩ := hc
  cases h
  rw [readEncoding, field?_of_lookup rfl hx, ok_bind, field?_of_lookup rfl hy, ok_bind,
    field?_of_lookup rfl hseries, ok_bind, field?_of_lookup rfl hstart, ok_bind,
    field?_of_lookup rfl hfinish, ok_bind, field?_of_lookup rfl hdue, ok_bind,
    field?_of_lookup rfl hscheduled, ok_bind, field?_of_lookup rfl hduration, ok_bind,
    field?_of_lookup rfl hgroup, ok_bind, field?_of_lookup rfl hlabel, ok_bind]
  rfl

theorem readAggregation_of_toValue {a : Aggregation} (h : a.toValue = .map es)
    (hr : ∀ b, a.rolling ≠ .scalar (.bool b)) : readAggregation es = .ok a := by
  cases h
  rw [readAggregation, choice?_of_lookup rfl, ok_bind, choice?_of_lookup rfl, ok_bind]
  split
  next b hb => exact (hr b hb).elim
  next => rfl

theorem readDirection_of_lookup {d : Direction}
    (h : Value.lookup? es "x" = some (.text (Choice.name d))) : readDirection es = .ok d := by
  rw [readDirection, h]
  cases d <;> rfl

theorem readBucket_of_lookup {b : Bucket}
    (h : Value.lookup? es "x_bucket" = some (.text (Choice.name b))) : readBucket es = .ok b := by
  have hname : lower (strip (Choice.name b)) = Choice.name b := by
    rw [(LawfulChoice.isLabel_name b).2, lower_name_bucket]
  have hdisplay : (Value.text (Choice.name b)).display = .ok (Choice.name b) := rfl
  rw [readBucket, h, Option.getD_some, hdisplay, ok_bind]
  simp only [hname, LawfulChoice.ofName?_name]
  rfl

theorem readTitle_of_lookup {title : String} (h : Value.lookup es "title" = .text title) :
    readTitle es = .ok title := by
  rw [readTitle, h]
  cases htitle : title.isEmpty with
  | false => exact if_pos (by simp [Value.text, Value.isSet, htitle])
  | true =>
    rw [String.isEmpty_iff.mp htitle]
    rfl

theorem readExplode_of_lookup {explode : Option Bool} (h : Value.lookup? es "multi_value" =
    some ((explode.map fun b => .scalar (.bool b)).getD .null)) : readExplode es = explode := by
  rw [readExplode, h]
  cases explode <;> rfl

/-- Choices by legal names, channels that are neither empty nor padded, and no truth value for a
window. -/
structure IsNormal (c : Chart) : Prop where
  type : Choice.name c.type ∈ Choice.names ChartType
  reduction : ∀ r ∈ c.aggregation.reduction, Choice.name r ∈ Choice.names Reduction
  measure : ∀ m ∈ c.aggregation.measure, Choice.name m ∈ Choice.names Measure
  direction : Choice.name c.direction ∈ Choice.names Direction
  bucket : Choice.name c.bucket ∈ Choice.names Bucket
  channels : ∀ channel ∈ c.encoding.channels, ∀ f ∈ channel, IsLabel f.text
  window : ∀ b, c.aggregation.rolling ≠ .scalar (.bool b)

/-- A chart in normal form is what the specification says that it is written as. -/
theorem ofValue_toValue (h : c.IsNormal) : ofValue c.toValue = .ok c := by
  unfold ofValue
  split
  case h_1 es hes =>
    cases hes
    rw [choice?_of_lookup (a := some c.type) rfl, ok_bind]
    dsimp only
    rw [entries_of_lookup rfl, ok_bind, readFeed_of_toValue rfl, ok_bind, entries_of_lookup rfl, ok_bind,
      readEncoding_of_toValue rfl h.channels, ok_bind, entries_of_lookup rfl, ok_bind,
      readAggregation_of_toValue rfl h.window, ok_bind, entries_of_lookup rfl, ok_bind,
      readDirection_of_lookup rfl, ok_bind, entries_of_lookup rfl, ok_bind, readBucket_of_lookup rfl,
      ok_bind, readTitle_of_lookup rfl, ok_bind, readExplode_of_lookup rfl]
    rfl
  case h_2 hn => exact (hn _ rfl).elim

theorem isLabel_of_label? (h : label? es key = .ok label) : ∀ s ∈ label, IsLabel s := by
  unfold label? at h
  dsimp only at h
  split at h
  next =>
    cases h
    nofun
  next =>
    obtain ⟨shown, -, h⟩ := bind_eq_ok.mp h
    split at h
    next =>
      cases h
      nofun
    next hne =>
      cases h
      rintro _ ⟨⟩
      exact ⟨by simpa using hne, strip_strip shown⟩

theorem isLabel_of_field? (h : field? es key = .ok field) : ∀ f ∈ field, IsLabel f.text := by
  obtain ⟨label, hlabel, h⟩ := bind_eq_ok.mp h
  cases h
  intro f hf
  obtain ⟨s, hs, hname⟩ := Option.bind_eq_some_iff.mp hf
  rw [FieldName.text_of_of? hname]
  exact isLabel_of_label? hlabel s hs

theorem isLabel_of_readEncoding {e : Encoding} (h : readEncoding es = .ok e) :
    ∀ channel ∈ e.channels, ∀ f ∈ channel, IsLabel f.text := by
  obtain ⟨x, hx, h⟩ := bind_eq_ok.mp h
  obtain ⟨y, hy, h⟩ := bind_eq_ok.mp h
  obtain ⟨series, hseries, h⟩ := bind_eq_ok.mp h
  obtain ⟨start, hstart, h⟩ := bind_eq_ok.mp h
  obtain ⟨finish, hfinish, h⟩ := bind_eq_ok.mp h
  obtain ⟨due, hdue, h⟩ := bind_eq_ok.mp h
  obtain ⟨scheduled, hscheduled, h⟩ := bind_eq_ok.mp h
  obtain ⟨duration, hduration, h⟩ := bind_eq_ok.mp h
  obtain ⟨group, hgroup, h⟩ := bind_eq_ok.mp h
  obtain ⟨label, hlabel, h⟩ := bind_eq_ok.mp h
  cases h
  simp only [Encoding.channels, List.forall_mem_cons]
  exact ⟨isLabel_of_field? hx, isLabel_of_field? hy, isLabel_of_field? hseries,
    isLabel_of_field? hstart, isLabel_of_field? hfinish, isLabel_of_field? hdue,
    isLabel_of_field? hscheduled, isLabel_of_field? hduration, isLabel_of_field? hgroup,
    isLabel_of_field? hlabel, nofun⟩

theorem ne_bool_of_readAggregation {a : Aggregation} (h : readAggregation es = .ok a) :
    ∀ b, a.rolling ≠ .scalar (.bool b) := by
  obtain ⟨reduction, -, h⟩ := bind_eq_ok.mp h
  obtain ⟨measure, -, h⟩ := bind_eq_ok.mp h
  split at h
  next => cases h
  next hn =>
    cases h
    exact hn

/-- Whatever is read is in normal form. -/
theorem isNormal_of_ofValue (h : ofValue v = .ok c) : c.IsNormal := by
  unfold ofValue at h
  split at h
  next es _ =>
    obtain ⟨type?, -, h⟩ := bind_eq_ok.mp h
    split at h
    next type =>
      obtain ⟨_, -, h⟩ := bind_eq_ok.mp h
      obtain ⟨feed, -, h⟩ := bind_eq_ok.mp h
      obtain ⟨_, -, h⟩ := bind_eq_ok.mp h
      obtain ⟨encoding, hencoding, h⟩ := bind_eq_ok.mp h
      obtain ⟨_, -, h⟩ := bind_eq_ok.mp h
      obtain ⟨aggregation, haggregation, h⟩ := bind_eq_ok.mp h
      obtain ⟨_, -, h⟩ := bind_eq_ok.mp h
      obtain ⟨direction, -, h⟩ := bind_eq_ok.mp h
      obtain ⟨_, -, h⟩ := bind_eq_ok.mp h
      obtain ⟨bucket, -, h⟩ := bind_eq_ok.mp h
      obtain ⟨title, -, h⟩ := bind_eq_ok.mp h
      cases h
      exact {
        type := Choice.name_mem_names _
        reduction := fun r _ => Choice.name_mem_names r
        measure := fun m _ => Choice.name_mem_names m
        direction := Choice.name_mem_names _
        bucket := Choice.name_mem_names _
        channels := isLabel_of_readEncoding hencoding
        window := ne_bool_of_readAggregation haggregation }
    next => cases h
  next => cases h

/-- A specification is refused for a fault that is reported, or read as a chart in normal form,
which is written as a specification of itself. Only integers of too many digits are refused
otherwise. -/
theorem ofValue_settles (hv : v.IsPrintable) :
    FailsOnly (fun failure => (∃ fault, failure = .spec fault) ∨
      failure = .range .integerTooLong ∧ ¬ v.IsWritable) (ofValue v) ∧
    ∀ c, ofValue v = .ok c → c.IsNormal ∧ ofValue c.toValue = .ok c := by
  constructor
  · have hscalars := hv.allScalars_isExcused (P := fun failure =>
      (∃ fault, failure = .spec fault) ∨ failure = .range .integerTooLong ∧ ¬ v.IsWritable)
      fun hw => .inr ⟨rfl, hw⟩
    exact (covers_allScalars fun fault => .inl ⟨fault, rfl⟩).failsOnly_ofValue hscalars
  · intro c hc
    have hnormal := isNormal_of_ofValue hc
    exact ⟨hnormal, ofValue_toValue hnormal⟩

/-- A specification with blanks around its words, other letters than usual, and a truth value for
the text of a channel. -/
def loose : String :=
  "type: ' bar '\nencoding:\n  x: yes\n  y: '  '\nsort:\n  x: DESC\n"

theorem ofValue_settles_loose : ∃ v c, Yaml.read loose = .ok v ∧ v.IsPrintable ∧
    ofValue v = .ok c ∧ c.type = .bar ∧ c.encoding.x = FieldName.of? "True" ∧ c.encoding.y = none ∧
    c.direction = .descending ∧ c.IsNormal ∧ ofValue c.toValue = .ok c := by
  have hany : (Yaml.read loose).toOption.any (fun v => (ofValue v).toOption.any fun c =>
      c.type = .bar ∧ c.encoding.x = FieldName.of? "True" ∧ c.encoding.y = none ∧
      c.direction = .descending) = true := by decide +kernel
  obtain ⟨v, hv, hany⟩ := (Option.any_eq_true _ _).mp hany
  obtain ⟨c, hc, hparts⟩ := (Option.any_eq_true _ _).mp hany
  have hread : Yaml.read loose = .ok v := toOption_eq_some_iff.mp hv
  have hof : ofValue v = .ok c := toOption_eq_some_iff.mp hc
  obtain ⟨htype, hx, hy, hdirection⟩ := of_decide_eq_true hparts
  have hprintable := Yaml.isPrintable_read hread
  obtain ⟨hnormal, hwritten⟩ := (ofValue_settles hprintable).2 c hof
  exact ⟨v, c, hread, hprintable, hof, htype, hx, hy, hdirection, hnormal, hwritten⟩

/-- An integer of too many digits is no type of chart, and is not reported as such. -/
theorem ofValue_longType :
    (Value.ofFields [("type", .scalar (.int (Nat.pow 16 3600 : Nat)))]).IsPrintable ∧
    ofValue (.ofFields [("type", .scalar (.int (Nat.pow 16 3600 : Nat)))]) =
      .error (.range .integerTooLong) ∧
    ∀ fault, Failure.range .integerTooLong ≠ .spec fault := by
  have hlong : Scalar.unwritable ≤ Nat.pow 16 3600 := by decide +kernel
  generalize Nat.pow 16 3600 = n at hlong ⊢
  have hdisplay : (Value.scalar (.int n)).display = .error (.range .integerTooLong) :=
    Scalar.written_eq_error _ (by simpa [Scalar.isWritable] using hlong)
  refine ⟨.map (by simp [Value.IsPrintable.scalar]), ?_, nofun⟩
  have hlabel : label? [(.text "type", .scalar (.int n))] "type" =
      .error (.range .integerTooLong) := by
    change (Value.scalar (.int n)).display >>= _ = _
    rw [hdisplay]
    rfl
  change choice? ChartType [(.text "type", .scalar (.int n))] "chart type" "type" >>= _ = _
  rw [choice?, hlabel]
  rfl

end Chart
end NotePlot
