import NotePlot.Proofs.Failure.Query
import NotePlot.Proofs.Failure.Result
/-! Faults in a chart and in its clauses come to light before any note is read, so that no source of
notes can hide or change them. -/
namespace NotePlot

open Outcome

variable {clause text : String} {clauses : List String} {fault : ClauseFault} {k : Condition}

/-- What an engine is asked for: a chart, or a value that specifies one. -/
inductive Request
  | chart (c : Chart)
  | given (spec : Value)

namespace Request

def chartOf : Request → Outcome Chart
  | chart c => .ok c
  | given spec => do Chart.ofValue (.map (← spec.entries))

theorem failsIn_chartOf (request : Request) : FailsIn [.chart, .value] request.chartOf := by
  cases request with
  | chart c => exact failsIn_ok c
  | given spec =>
    exact failsIn_bind (spec.failsIn_entries.mono (by simp)) fun _ => Chart.failsIn_ofValue _

end Request

namespace Clause

variable {now : Reference} {isDateField : String → Bool}

/-- A clause that is written in neither of the two forms, with what is reported about it. -/
def IsFaulty (now : Reference) (isDateField : String → Bool) (clause : String)
    (fault : ClauseFault) : Prop := Clause.read now isDateField clause = .error (.clause fault)

def IsReadable (now : Reference) (isDateField : String → Bool) (clause : String) : Prop :=
  ∃ k, Clause.read now isDateField clause = .ok k

theorem readAll_cons_of_read (h : Clause.read now isDateField clause = .ok k) :
    readAll now isDateField (clause :: clauses) =
      do return k :: (← readAll now isDateField clauses) := by
  rw [readAll, h]
  rfl

theorem readAll_cons_of_isFaulty (h : IsFaulty now isDateField clause fault) :
    readAll now isDateField (clause :: clauses) = .error (.condition clause fault) := by
  unfold IsFaulty at h
  rw [readAll, h]
  rfl

/-- What is not about the clause itself is passed on as it is. -/
theorem readAll_cons_of_error {failure : Failure}
    (h : Clause.read now isDateField clause = .error failure) (hv : failure.area = .value) :
    readAll now isDateField (clause :: clauses) = .error failure := by
  rw [readAll, h]
  cases failure <;> simp [Failure.area] at hv <;> rfl

/-- A clause is read, or it is faulty, or it fails for a value in it; nothing else happens to it. -/
theorem read_cases (now : Reference) (isDateField : String → Bool) (clause : String) :
    IsReadable now isDateField clause ∨ (∃ fault, IsFaulty now isDateField clause fault) ∨
      ∃ failure, Clause.read now isDateField clause = .error failure ∧ failure.area = .value := by
  cases h : Clause.read now isDateField clause with
  | ok k => exact .inl ⟨k, h⟩
  | error failure =>
    have ha := failsIn_read now isDateField clause failure h
    cases failure <;> simp [Failure.area] at ha
    case clause fault => exact .inr (.inl ⟨fault, h⟩)
    all_goals exact .inr (.inr ⟨_, rfl, rfl⟩)

/-- A clause is reported if it is the first that is faulty and all before it can be read; those
after it do not matter. -/
theorem readAll_eq_condition_iff :
    readAll now isDateField clauses = .error (.condition text fault) ↔
      ∃ earlier later, clauses = earlier ++ text :: later ∧
        (∀ clause ∈ earlier, IsReadable now isDateField clause) ∧
          IsFaulty now isDateField text fault := by
  constructor
  · intro h
    induction clauses with
    | nil => cases h
    | cons clause rest ih =>
      obtain ⟨k, hr⟩ | ⟨other, hr⟩ | ⟨failure, hr, ha⟩ := read_cases now isDateField clause
      · rw [readAll_cons_of_read hr, bind_eq_error] at h
        obtain h | ⟨_, _, h⟩ := h
        · obtain ⟨earlier, later, rfl, he, hf⟩ := ih h
          exact ⟨clause :: earlier, later, rfl, List.forall_mem_cons.mpr ⟨⟨k, hr⟩, he⟩, hf⟩
        · cases h
      · rw [readAll_cons_of_isFaulty hr] at h
        cases h
        exact ⟨[], rest, rfl, by simp, hr⟩
      · rw [readAll_cons_of_error hr ha] at h
        cases h
        cases ha
  · rintro ⟨earlier, later, rfl, he, hf⟩
    induction earlier with
    | nil => exact readAll_cons_of_isFaulty hf
    | cons clause earlier ih =>
      obtain ⟨⟨k, hk⟩, he⟩ := List.forall_mem_cons.mp he
      rw [List.cons_append, readAll_cons_of_read hk, ih he]
      rfl

theorem exists_readAll_iff : (∃ ks, readAll now isDateField clauses = .ok ks) ↔
    ∀ clause ∈ clauses, IsReadable now isDateField clause := by
  induction clauses with
  | nil => exact ⟨fun _ => by simp, fun _ => ⟨[], rfl⟩⟩
  | cons clause rest ih =>
    rw [List.forall_mem_cons, ← ih]
    constructor
    · rintro ⟨ks, h⟩
      obtain ⟨k, hr⟩ | ⟨fault, hr⟩ | ⟨failure, hr, ha⟩ := read_cases now isDateField clause
      · rw [readAll_cons_of_read hr, bind_eq_ok] at h
        obtain ⟨ks, hks, -⟩ := h
        exact ⟨⟨k, hr⟩, ks, hks⟩
      · rw [readAll_cons_of_isFaulty hr] at h
        cases h
      · rw [readAll_cons_of_error hr ha] at h
        cases h
    · rintro ⟨⟨k, hk⟩, ks, hks⟩
      exact ⟨k :: ks, by rw [readAll_cons_of_read hk, hks]; rfl⟩

end Clause

namespace Engine

variable {e : Engine} {now : Value} {source : Source}

/-- The answer to a request. -/
def answer (e : Engine) (source : Source) (now : Value) : Request → Outcome Result
  | .chart c => e.run source c now
  | .given spec => e.runGiven source spec now

/-- What can be told of a request before any note is read: the chart, and its conditions. -/
def readied (e : Engine) (now : Value) (request : Request) : Outcome (Chart × List Condition) := do
  let c ← request.chartOf
  return (c, ← e.prepare c now)

/-- The result of a chart with its conditions on the notes of a source. -/
def resultFrom (e : Engine) (source : Source) (c : Chart) (ks : List Condition) :
    Outcome Result := do
  let notes ← source.snapshot
  e.resultOf c (← (e.selection c.feed ks).filter notes)

/-- The source is not looked at before the request is read and checked. -/
theorem answer_eq (e : Engine) (source : Source) (now : Value) (request : Request) :
    e.answer source now request =
      e.readied now request >>= fun (c, ks) => e.resultFrom source c ks := by
  cases request <;> simp [answer, readied, run, runGiven, resultFrom, Request.chartOf]

theorem prepare_eq_ok_iff {c : Chart} {ks : List Condition} : e.prepare c now = .ok ks ↔
    c.check = .ok () ∧
      Clause.readAll ⟨now, e.phrases⟩ e.dateFields.includes c.feed.clauses = .ok ks := by
  unfold prepare
  cases c.check with
  | error fault => simp
  | ok _ => simp

theorem prepare_eq_condition_iff {c : Chart} : e.prepare c now = .error (.condition text fault) ↔
    c.check = .ok () ∧
      Clause.readAll ⟨now, e.phrases⟩ e.dateFields.includes c.feed.clauses =
        .error (.condition text fault) := by
  unfold prepare
  cases c.check with
  | error fault => simp [throw, throwThe, MonadExceptOf.throw]
  | ok _ => simp

theorem readied_eq_ok_iff {request : Request} {c : Chart} {ks : List Condition} :
    e.readied now request = .ok (c, ks) ↔ request.chartOf = .ok c ∧ c.check = .ok () ∧
      Clause.readAll ⟨now, e.phrases⟩ e.dateFields.includes c.feed.clauses = .ok ks := by
  simp only [readied, bind_eq_ok, ← prepare_eq_ok_iff]
  constructor
  · rintro ⟨c', hc, ks', hks, h⟩
    cases h
    exact ⟨hc, hks⟩
  · rintro ⟨hc, hks⟩
    exact ⟨c, hc, ks, hks, rfl⟩

theorem readied_eq_condition_iff {request : Request} :
    e.readied now request = .error (.condition text fault) ↔
      ∃ c, request.chartOf = .ok c ∧ c.check = .ok () ∧
        Clause.readAll ⟨now, e.phrases⟩ e.dateFields.includes c.feed.clauses =
          .error (.condition text fault) := by
  simp only [readied, bind_eq_error, ← prepare_eq_condition_iff]
  constructor
  · rintro (h | ⟨c, hc, h | ⟨ks, _, h⟩⟩)
    · exact absurd h (request.failsIn_chartOf.ne_error (by simp [Failure.area]))
    · exact ⟨c, hc, h⟩
    · cases h
  · rintro ⟨c, hc, h⟩
    exact .inr ⟨c, hc, .inl h⟩

theorem failsIn_readied (e : Engine) (now : Value) (request : Request) :
    FailsIn [.chart, .condition, .value] (e.readied now request) := by
  refine failsIn_bind (request.failsIn_chartOf.mono (by simp)) fun c => ?_
  refine failsIn_bind ?_ fun _ => failsIn_ok _
  unfold prepare
  split
  · exact failsIn_error (by simp [Failure.area])
  · exact (Clause.failsIn_readAll _ _ _).mono (by simp)

theorem failsIn_resultFrom (e : Engine) (source : Source) (c : Chart) (ks : List Condition) :
    FailsIn [.note, .running, .value] (e.resultFrom source c ks) :=
  failsIn_bind (source.failsIn_snapshot.mono (by simp)) fun _ =>
    failsIn_bind ((Selection.failsIn_filter _ _).mono (by simp)) fun _ =>
      (e.failsIn_resultOf c _).mono (by simp)

theorem resultFrom_eq_note_iff {c : Chart} {ks : List Condition} {fault : NoteFault} :
    e.resultFrom source c ks = .error (.note fault) ↔
      source.snapshot = .error (.note fault) := by
  rw [resultFrom, bind_eq_error]
  refine ⟨fun h => h.elim id ?_, .inl⟩
  rintro ⟨notes, _, h⟩
  have late : FailsIn [.running, .value]
      ((e.selection c.feed ks).filter notes >>= e.resultOf c) :=
    failsIn_bind ((Selection.failsIn_filter _ _).mono (by simp)) fun _ => e.failsIn_resultOf c _
  exact absurd h (late.ne_error (by simp [Failure.area]))

/-- A fault in a chart or in one of its clauses is reported whatever the source of notes, and in the
same words. Of several faulty clauses, the first is reported. A source that hands over malformed
notes is reported for charts without a fault only. -/
theorem answer_failsFast (e : Engine) (now : Value) (request : Request) :
    (∀ source failure, e.answer source now request = .error failure →
      failure.area = .chart ∨ failure.area = .clause ∨ failure.area = .condition →
        ∀ other, e.answer other now request = .error failure) ∧
    (∀ source text fault, e.answer source now request = .error (.condition text fault) ↔
      ∃ c, request.chartOf = .ok c ∧ c.check = .ok () ∧ ∃ earlier later,
        c.feed.clauses = earlier ++ text :: later ∧
          (∀ clause ∈ earlier, Clause.IsReadable ⟨now, e.phrases⟩ e.dateFields.includes clause) ∧
            Clause.IsFaulty ⟨now, e.phrases⟩ e.dateFields.includes text fault) ∧
    (∀ text fault, (Failure.condition text fault).message? =
      some ("Invalid condition: " ++ text ++ " (" ++ fault.message ++ ")")) ∧
    ∀ source fault, e.answer source now request = .error (.note fault) ↔
      (∃ c, request.chartOf = .ok c ∧ c.check = .ok () ∧
        ∀ clause ∈ c.feed.clauses,
          Clause.IsReadable ⟨now, e.phrases⟩ e.dateFields.includes clause) ∧
            source.snapshot = .error (.note fault) := by
  refine ⟨?_, ?_, fun _ _ => rfl, ?_⟩
  · intro source failure h ha other
    rw [answer_eq, bind_eq_error] at h
    obtain h | ⟨⟨c, ks⟩, -, h⟩ := h
    · rw [answer_eq, h]
      rfl
    · -- nothing that happens once the source is asked is about the chart or its clauses
      have hlate : failure.area ∉ [.note, .running, .value] := by
        rcases ha with ha | ha | ha <;> simp [ha]
      exact absurd h ((failsIn_resultFrom e source c ks).ne_error hlate)
  · intro source text fault
    simp only [← Clause.readAll_eq_condition_iff, ← readied_eq_condition_iff]
    rw [answer_eq, bind_eq_error]
    refine ⟨fun h => h.elim id ?_, .inl⟩
    rintro ⟨⟨c, ks⟩, -, h⟩
    exact absurd h ((failsIn_resultFrom e source c ks).ne_error (by simp [Failure.area]))
  · intro source fault
    simp only [← Clause.exists_readAll_iff]
    rw [answer_eq, bind_eq_error]
    constructor
    · rintro (h | ⟨⟨c, ks⟩, hr, h⟩)
      · exact absurd h ((failsIn_readied e now request).ne_error (by simp [Failure.area]))
      · obtain ⟨hc, hcheck, hks⟩ := readied_eq_ok_iff.mp hr
        exact ⟨⟨c, hc, hcheck, ks, hks⟩, resultFrom_eq_note_iff.mp h⟩
    · rintro ⟨⟨c, hc, hcheck, ks, hks⟩, h⟩
      exact .inr ⟨(c, ks), readied_eq_ok_iff.mpr ⟨hc, hcheck, hks⟩, resultFrom_eq_note_iff.mpr h⟩

/-- A table whose first clause can be read, while the second has no sign and the third no field. -/
def openTable : Chart where
  type := .table
  feed := ⟨[], [], ["status == open", "priority", "== 1"]⟩
  encoding := {}
  aggregation := ⟨none, false, .null, none⟩
  direction := .ascending
  title := ""
  explode := none
  bucket := .none

/-- The engine of a host that names no settings. -/
def usual (phrases : Phrases) : Engine := ⟨.usual, .usual, phrases⟩

theorem answer_failsFast_openTable :
    (usual (.ofYear 2024)).answer (.index .empty) .null (.chart openTable) =
      .error (.condition "priority" (.unreadable "priority")) ∧
    (∀ other, (usual (.ofYear 2024)).answer other .null (.chart openTable) =
      .error (.condition "priority" (.unreadable "priority"))) ∧
    (usual (.ofYear 2024)).answer (.host [.raw (.map [])]) .null
      (.chart { openTable with feed := ⟨[], [], ["status == open"]⟩ }) =
        .error (.note .pathMissing) := by
  have readable : Clause.IsReadable ⟨.null, .ofYear 2024⟩ DateFields.usual.includes
    "status == open" := ⟨_, rfl⟩
  obtain ⟨same, first, -, -⟩ := answer_failsFast (usual (.ofYear 2024)) .null (.chart openTable)
  have h := (first (.index .empty) "priority" (.unreadable "priority")).mpr ⟨openTable, rfl, rfl,
    ["status == open"], ["== 1"], rfl, List.forall_mem_singleton.mpr readable, rfl⟩
  refine ⟨h, same _ _ h (by decide), ?_⟩
  obtain ⟨-, -, -, late⟩ := answer_failsFast (usual (.ofYear 2024)) .null
    (.chart { openTable with feed := ⟨[], [], ["status == open"]⟩ })
  exact (late _ _).mpr ⟨⟨_, rfl, rfl, List.forall_mem_singleton.mpr readable⟩, rfl⟩

end Engine
end NotePlot
