import NotePlot.Value.Written
import NotePlot.Proofs.Failure.Only
/-! What the texts of values fail for. Data have texts, however deep they are, unless an integer in
them has too many digits to be written. -/
namespace NotePlot

open Outcome

variable {P : Failure → Prop} {v : Value} {xs : List Value} {es : List (Scalar × Value)}

theorem Scalar.failsOnly_written {s : Scalar} (write : Scalar → String)
    (h : s.isWritable = false → P (.range .integerTooLong)) : FailsOnly P (s.written write) := by
  unfold written
  split
  next => exact failsOnly_ok _
  next hs => exact failsOnly_error (h (eq_false_of_ne_true hs))

theorem Scalar.written_eq_ok {s : Scalar} (write : Scalar → String) (h : s.isWritable) :
    s.written write = .ok (write s) := by
  rw [written, h]
  rfl

theorem Scalar.written_eq_error {s : Scalar} (write : Scalar → String) (h : s.isWritable = false) :
    s.written write = .error (.range .integerTooLong) := by
  rw [written, h]
  rfl

namespace Value

theorem failsOnly_quotedItems (h : ∀ x ∈ xs, FailsOnly P x.quoted) :
    FailsOnly P (quotedItems xs) := by
  induction xs with
  | nil => exact failsOnly_ok _
  | cons x xs ih =>
    obtain ⟨hx, hxs⟩ := List.forall_mem_cons.mp h
    exact failsOnly_bind hx fun _ _ => failsOnly_bind (ih hxs) fun _ _ => failsOnly_ok _

theorem failsOnly_quotedEntries (hk : ∀ e ∈ es, FailsOnly P (e.1.written Scalar.quoted))
    (h : ∀ e ∈ es, FailsOnly P e.2.quoted) : FailsOnly P (quotedEntries es) := by
  induction es with
  | nil => exact failsOnly_ok _
  | cons e es ih =>
    obtain ⟨hname, hnames⟩ := List.forall_mem_cons.mp hk
    obtain ⟨he, hes⟩ := List.forall_mem_cons.mp h
    exact failsOnly_bind hname fun _ _ => failsOnly_bind he fun _ _ =>
      failsOnly_bind (ih hnames hes) fun _ _ => failsOnly_ok _

theorem failsOnly_plainItems (h : ∀ x ∈ xs, FailsOnly P x.plain) :
    FailsOnly P (plainItems xs) := by
  induction xs with
  | nil => exact failsOnly_ok _
  | cons x xs ih =>
    obtain ⟨hx, hxs⟩ := List.forall_mem_cons.mp h
    have rest (part : String) : FailsOnly P (do return part :: (← plainItems xs)) :=
      failsOnly_bind (ih hxs) fun _ _ => failsOnly_ok _
    exact failsOnly_ite (rest "") (failsOnly_bind hx fun part _ => rest part)

/-- A value without objects of the host, and without collections that contain themselves. -/
inductive IsData : Value → Prop
  | scalar (s : Scalar) : IsData (.scalar s)
  | list {xs : List Value} (h : ∀ x ∈ xs, IsData x) : IsData (.list xs)
  | tuple {xs : List Value} (h : ∀ x ∈ xs, IsData x) : IsData (.tuple xs)
  | set {xs : List Value} (h : ∀ x ∈ xs, IsData x) : IsData (.set xs)
  | map {es : List (Scalar × Value)} (h : ∀ e ∈ es, IsData e.2) : IsData (.map es)

/-- Somewhere in a value stands an integer with too many digits to be written. -/
inductive HasLongInteger : Value → Prop
  | scalar {s : Scalar} (h : s.isWritable = false) : HasLongInteger (.scalar s)
  | list {x : Value} {xs : List Value} (hx : x ∈ xs) (h : HasLongInteger x) :
      HasLongInteger (.list xs)
  | tuple {x : Value} {xs : List Value} (hx : x ∈ xs) (h : HasLongInteger x) :
      HasLongInteger (.tuple xs)
  | set {x : Value} {xs : List Value} (hx : x ∈ xs) (h : HasLongInteger x) :
      HasLongInteger (.set xs)
  | key {e : Scalar × Value} {es : List (Scalar × Value)} (he : e ∈ es)
      (h : e.1.isWritable = false) : HasLongInteger (.map es)
  | entry {e : Scalar × Value} {es : List (Scalar × Value)} (he : e ∈ es)
      (h : HasLongInteger e.2) : HasLongInteger (.map es)

/-- The failure of a value in which an integer is too long. -/
def IsTooLong (v : Value) (failure : Failure) : Prop :=
  failure = .range .integerTooLong ∧ v.HasLongInteger

theorem IsTooLong.of_part {part : Value} (h : part.HasLongInteger → v.HasLongInteger)
    {failure : Failure} (hp : part.IsTooLong failure) : v.IsTooLong failure :=
  ⟨hp.1, h hp.2⟩

theorem IsData.failsOnly_quoted (h : v.IsData) : FailsOnly v.IsTooLong v.quoted := by
  induction h with
  | scalar s => exact s.failsOnly_written _ fun hs => ⟨rfl, .scalar hs⟩
  | list _ ih =>
    exact failsOnly_bind (failsOnly_quotedItems fun x hx =>
      (ih x hx).mono fun _ => .of_part (.list hx)) fun _ _ => failsOnly_ok _
  | tuple _ ih =>
    exact failsOnly_bind (failsOnly_quotedItems fun x hx =>
      (ih x hx).mono fun _ => .of_part (.tuple hx)) fun _ _ => failsOnly_ok _
  | set _ ih =>
    exact failsOnly_bind (failsOnly_quotedItems fun x hx =>
      (ih x hx).mono fun _ => .of_part (.set hx)) fun _ _ => failsOnly_ok _
  | map _ ih =>
    refine failsOnly_bind (failsOnly_quotedEntries (fun e he => ?_) fun e he => ?_)
      fun _ _ => failsOnly_ok _
    · exact e.1.failsOnly_written _ fun hk => ⟨rfl, .key he hk⟩
    · exact (ih e he).mono fun _ => .of_part (.entry he)

theorem IsData.failsOnly_display (h : v.IsData) : FailsOnly v.IsTooLong v.display := by
  unfold display
  split
  next s => exact s.failsOnly_written _ fun hs => ⟨rfl, .scalar hs⟩
  next => cases h
  next => cases h
  next => exact h.failsOnly_quoted

theorem IsData.failsOnly_plain (h : v.IsData) : FailsOnly v.IsTooLong v.plain := by
  induction h with
  | scalar s => exact s.failsOnly_written _ fun hs => ⟨rfl, .scalar hs⟩
  | list _ ih =>
    exact failsOnly_bind (failsOnly_plainItems fun x hx =>
      (ih x hx).mono fun _ => .of_part (.list hx)) fun _ _ => failsOnly_ok _
  | tuple _ ih =>
    exact failsOnly_bind (failsOnly_plainItems fun x hx =>
      (ih x hx).mono fun _ => .of_part (.tuple hx)) fun _ _ => failsOnly_ok _
  | set h _ => exact (IsData.set h).failsOnly_quoted
  | map h _ => exact (IsData.map h).failsOnly_quoted

end Value
end NotePlot
