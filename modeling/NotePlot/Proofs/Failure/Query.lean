import NotePlot.Query.Engine
import NotePlot.Proofs.Failure.Chart
import NotePlot.Proofs.Value.Resistance
/-! What the steps of a query can fail for. A chart is read and checked before its clauses are, and
these before any note is; each step has failures of its own, besides those about values. -/
namespace NotePlot

open Outcome

variable {phrases : Phrases} {P : Failure → Prop} {props : Properties}

theorem Value.failsIn_putPairs (index : Nat) (es : Entries) (pairs : List Value) :
    FailsIn [.value] (putPairs index es pairs) := by
  induction pairs generalizing index es with
  | nil => exact failsIn_ok _
  | cons pair rest ih =>
    refine failsIn_bind ?_ fun es => ih (index + 1) es
    unfold putPair
    split
    · exact failsIn_error (by simp [Failure.area])
    · refine failsIn_ite (failsIn_error (by simp [Failure.area])) ?_
      split <;> exact failsIn_ok _
    · exact failsIn_error (by simp [Failure.area])

theorem Value.failsIn_entries (v : Value) : FailsIn [.value] v.entries := by
  unfold entries
  split
  · exact failsIn_ok _
  · split
    · exact failsIn_putPairs _ _ _
    · exact failsIn_error (by simp [Failure.area])

theorem Condition.failsIn_make (field : String) (op : Operator) (value : Value)
    (kind : OperandKind) (upper : Option Value) :
    FailsIn [.clause] (make field op value kind upper) :=
  failsIn_ite (failsIn_ok _) (failsIn_error (by simp [Failure.area]))

namespace Clause

variable (now : Reference) (isDateField : String → Bool)

theorem failsIn_read (clause : String) :
    FailsIn [.clause, .value] (Clause.read now isDateField clause) := by
  have operand (dateField : Bool) (token : String) :
      FailsIn [.clause, .value] (Operand.read now dateField token) :=
    (Operand.failsIn_read now dateField token).mono (by simp)
  unfold Clause.read
  dsimp only
  split
  · refine failsIn_bind (operand _ _) fun _ => failsIn_bind (operand _ _) fun _ => ?_
    exact (Condition.failsIn_make _ _ _ _ _).mono (by simp)
  · split
    · exact failsIn_error (by simp [Failure.area])
    · refine failsIn_ite (failsIn_error (by simp [Failure.area])) ?_
      exact failsIn_bind (operand _ _) fun _ => (Condition.failsIn_make _ _ _ _ _).mono (by simp)

/-- A faulty clause is reported as one of those of the chart. -/
theorem failsIn_readAll (clauses : List String) :
    FailsIn [.condition, .value] (readAll now isDateField clauses) := by
  induction clauses with
  | nil => exact failsIn_ok _
  | cons clause rest ih =>
    unfold readAll
    split
    case h_1 => exact failsIn_error (by simp [Failure.area])
    case h_2 r hr =>
      refine failsIn_bind ?_ fun _ => failsIn_bind ih fun _ => failsIn_ok _
      intro failure hf
      have ha := failsIn_read now isDateField clause failure hf
      cases failure <;> simp_all [Failure.area]

end Clause

theorem Note.failsIn_ofValue (v : Value) : FailsIn [.note, .value] (ofValue v) := by
  unfold ofValue
  split
  case h_1 es =>
    refine failsIn_ite (failsIn_error (by simp [Failure.area])) ?_
    refine failsIn_bind ((Value.failsIn_display _).mono (by simp)) fun path => ?_
    refine failsIn_bind ?_ fun _ => failsIn_ok _
    unfold propertiesOf
    dsimp only
    split
    · exact failsIn_ok _
    · exact failsIn_ite (failsIn_error (by simp [Failure.area])) (failsIn_ok _)
  case h_2 => exact failsIn_error (by simp [Failure.area])

/-- A source fails only for the notes that it hands over. -/
theorem Source.failsIn_snapshot (source : Source) : FailsIn [.note, .value] source.snapshot := by
  cases source with
  | index ix => exact failsIn_ok _
  | host items =>
    change FailsIn _ (Supplied.notes items)
    induction items with
    | nil => exact failsIn_ok _
    | cons item rest ih =>
      refine failsIn_bind ?_ fun _ => failsIn_bind ih fun _ => failsIn_ok _
      cases item with
      | ready note => exact failsIn_ok _
      | raw v => exact Note.failsIn_ofValue v

namespace Folder

theorem failsIn_anyCovers (path : String) (folders : List Value) :
    FailsIn [.value] (anyCovers path folders) := by
  induction folders with
  | nil => exact failsIn_ok _
  | cons folder rest ih =>
    unfold anyCovers
    split
    case h_1 => exact failsIn_ok _
    case h_2 h =>
      cases h
      exact failsIn_ite (failsIn_ok _) ih
    case h_3 => exact failsIn_error (by simp [Failure.area])

theorem failsIn_admitsBy (setting : Value) (path : String) :
    FailsIn [.value] (admitsBy setting path) := by
  refine failsIn_ite (failsIn_ok _) ?_
  split
  · exact failsIn_anyCovers _ _
  · exact failsIn_error (by simp [Failure.area])

end Folder

theorem Tag.failsOnly_admits {wanted : List Value} (hw : ∀ v ∈ wanted, FailsOnly P v.display)
    (hp : props.ResistOnly phrases P) : FailsOnly P (admits wanted props) := by
  have among (tags : List (List Char)) : FailsOnly P (anyAmong tags wanted) := by
    induction wanted with
    | nil => exact failsOnly_ok _
    | cons v rest ih =>
      obtain ⟨hv, hrest⟩ := List.forall_mem_cons.mp hw
      exact failsOnly_bind hv fun _ _ => failsOnly_ite (failsOnly_ok _) (ih hrest)
  have tags : FailsOnly P (ofNote props) :=
    failsOnly_bind (hp.get _).tags fun _ _ => failsOnly_ok _
  exact failsOnly_ite (failsOnly_ok _) (failsOnly_bind tags fun _ _ =>
    failsOnly_ite (failsOnly_ok _) (among _))

theorem Operator.failsIn_admits? (op : Operator) (o : Option Ordering) :
    FailsIn [.value] (op.admits? o) := by
  unfold admits?
  split <;> first | exact failsIn_ok _ | exact failsIn_error (by simp [Failure.area])

namespace Condition

variable (c : Condition) (v : Value)

theorem failsIn_holdsOfDate : FailsIn [.value] (c.holdsOfDate v) := by
  unfold holdsOfDate
  split
  · refine failsIn_ite ?_ (Operator.failsIn_admits? _ _)
    split
    · exact failsIn_bind (Operator.failsIn_admits? _ _) fun _ =>
        failsIn_ite (Operator.failsIn_admits? _ _) (failsIn_ok _)
    · exact failsIn_ok _
  · exact failsIn_ok _

/-- A condition fails for the value that it is about, if not for the one that it compares with. -/
theorem failsOnly_holds (hp : props.ResistOnly phrases P)
    (hdate : c.kind = .date → FailsOnly P (c.holdsOfDate (props.get c.field)))
    (hnumber : c.kind = .number → FailsOnly P c.value.number)
    (htext : c.kind = .text → FailsOnly P c.value.plain) : FailsOnly P (c.holds props) := by
  have ofNumber (hn : FailsOnly P c.value.number) :
      FailsOnly P (c.holdsOfNumber (props.get c.field)) := by
    refine failsOnly_bind (hp.get _).number fun n _ => ?_
    split
    · exact failsOnly_ok _
    · refine failsOnly_bind hn fun bound _ => ?_
      split
      · exact failsOnly_ok _
      · exact failsOnly_ite (failsOnly_ok _) (failsOnly_ok _)
  have ofText (ht : FailsOnly P c.value.plain) :
      FailsOnly P (c.holdsOfText (props.get c.field)) :=
    failsOnly_ite (failsOnly_ok _) <| failsOnly_bind (hp.get _).plain fun _ _ =>
      failsOnly_bind ht fun _ _ => failsOnly_ok _
  refine failsOnly_ite (failsOnly_ok _) ?_
  split
  next hk => exact hdate hk
  next hk => exact ofNumber (hnumber hk)
  next hk => exact ofText (htext hk)

theorem failsIn_holds (props : Properties) : FailsIn [.value] (c.holds props) :=
  c.failsOnly_holds (props.resistOnly_area default) (fun _ => c.failsIn_holdsOfDate _)
    (fun _ => c.value.failsIn_number) fun _ => c.value.failsIn_plain

end Condition

namespace Selection

variable {sel : Selection} {notes : List Note}

theorem failsOnly_allHold {conditions : List Condition}
    (h : ∀ c ∈ conditions, FailsOnly P (c.holds props)) : FailsOnly P (allHold props conditions) := by
  induction conditions with
  | nil => exact failsOnly_ok _
  | cons c rest ih =>
    obtain ⟨hc, hrest⟩ := List.forall_mem_cons.mp h
    exact failsOnly_bind hc fun _ _ => failsOnly_ite (ih hrest) (failsOnly_ok _)

/-- Selecting notes fails for the values in them, if not for what they are selected by. -/
theorem failsOnly_filter (hn : ∀ note ∈ notes, note.properties.ResistOnly phrases P)
    (hf : ∀ path, FailsOnly P (Folder.admitsBy sel.folders path))
    (ht : ∀ v ∈ sel.tags, FailsOnly P v.display)
    (hc : ∀ c ∈ sel.conditions, ∀ props : Properties, props.ResistOnly phrases P →
      FailsOnly P (c.holds props)) : FailsOnly P (sel.filter notes) := by
  have admits {note : Note} (h : note.properties.ResistOnly phrases P) :
      FailsOnly P (sel.admits note) :=
    failsOnly_bind (hf _) fun _ _ => failsOnly_ite (failsOnly_ok _) <|
      failsOnly_bind (Tag.failsOnly_admits ht h) fun _ _ =>
        failsOnly_ite (failsOnly_ok _) (failsOnly_allHold fun c hmem => hc c hmem _ h)
  induction notes with
  | nil => exact failsOnly_ok _
  | cons note rest ih =>
    obtain ⟨hhead, hrest⟩ := List.forall_mem_cons.mp hn
    exact failsOnly_bind (admits hhead) fun _ _ =>
      failsOnly_bind (ih hrest) fun _ _ => failsOnly_ok _

/-- Selecting notes fails only for what is in their properties, or in a setting. -/
theorem failsIn_filter (sel : Selection) (notes : List Note) :
    FailsIn [.value] (sel.filter notes) :=
  failsOnly_filter (fun note _ => note.properties.resistOnly_area default)
    (fun _ => Folder.failsIn_admitsBy _ _) (fun v _ => v.failsIn_display)
    fun c _ props _ => c.failsIn_holds props

end Selection
end NotePlot
