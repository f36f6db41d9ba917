import NotePlot.Chart.Reading
import NotePlot.Proofs.Failure.Area
import NotePlot.Proofs.Value.Scalars
/-! What the reading of a specification fails for: faults that it reports on its own, and values in
it that have no text. -/
namespace NotePlot.Chart

open Outcome

variable {P : Failure → Prop} {Q : Value → Prop} {es : Entries} {vs : List Value}

/-- Faults of specifications are among these failures, and so is what keeps a value with a property
from having a text. Values hand the property on to their parts. -/
structure Covers (P : Failure → Prop) (Q : Value → Prop) : Prop where
  spec (fault : SpecFault) : P (.spec fault)
  display {v : Value} (h : Q v) : FailsOnly P v.display
  null : Q .null
  text (s : String) : Q (.text s)
  item {v x : Value} {xs : List Value} (h : Q v) (hv : v.opened = .list xs ∨ v.opened = .tuple xs)
    (hx : x ∈ xs) : Q x
  entry {v : Value} {es : Entries} {e : Scalar × Value} (h : Q v) (hv : v.opened = .map es)
    (he : e ∈ es) : Q e.2

theorem covers_area : Covers (·.area ∈ [.chart, .value]) fun _ => True where
  spec _ := by simp [Failure.area]
  display _ := (Value.failsIn_display _).mono (by simp)
  null := trivial
  text _ := trivial
  item _ _ _ := trivial
  entry _ _ _ := trivial

theorem covers_allScalars (hspec : ∀ fault, P (.spec fault)) :
    Covers P (Value.AllScalars (Scalar.IsExcused P)) where
  spec := hspec
  display h := h.failsOnly_display
  null := .scalar nofun
  text _ := .scalar nofun
  item h hv hx := by
    have hopened := h.opened nofun
    obtain hv | hv := hv
    · rw [hv] at hopened
      cases hopened with
      | list h => exact h _ hx
    · rw [hv] at hopened
      cases hopened with
      | tuple h => exact h _ hx
  entry h hv he := by
    have hopened := h.opened nofun
    rw [hv] at hopened
    cases hopened with
    | map _ h => exact h _ he

/-- A property of all values of a mapping, and of one besides, is one of what is looked up. -/
theorem getD_lookup? (hes : ∀ e ∈ es, Q e.2) (key : String) {v : Value} (hv : Q v) :
    Q ((Value.lookup? es key).getD v) := by
  cases hkey : Value.lookup? es key with
  | none => exact hv
  | some w =>
    obtain ⟨e, he, rfl⟩ := Option.map_eq_some_iff.mp hkey
    exact hes e (List.mem_of_find?_eq_some he)

namespace Covers

variable (h : Covers P Q)
include h

theorem failsOnly_displays (hvs : ∀ v ∈ vs, Q v) : FailsOnly P (texts.displays vs) := by
  induction vs with
  | nil => exact failsOnly_ok _
  | cons v rest ih =>
    obtain ⟨hv, hrest⟩ := List.forall_mem_cons.mp hvs
    exact failsOnly_ite (ih hrest) <| failsOnly_bind (h.display hv) fun _ _ =>
      failsOnly_bind (ih hrest) fun _ _ => failsOnly_ok _

theorem failsOnly_entries (part : String) : FailsOnly P (entries es part) := by
  unfold entries
  split
  · exact failsOnly_ok _
  · exact failsOnly_ok _
  · exact failsOnly_error (h.spec _)

variable (hes : ∀ e ∈ es, Q e.2)
include hes

/-- A missing entry counts as null, which has the property. -/
theorem lookup (key : String) : Q (Value.lookup es key) := getD_lookup? hes key h.null

theorem failsOnly_texts (part key : String) : FailsOnly P (texts es part key) := by
  have hv := h.lookup hes key
  unfold texts
  split
  case h_1 | h_2 => exact failsOnly_ok _
  case h_3 xs hxs => exact h.failsOnly_displays fun x => h.item hv (.inl hxs)
  case h_4 xs hxs => exact h.failsOnly_displays fun x => h.item hv (.inr hxs)
  case h_5 => exact failsOnly_error (h.spec _)

/-- The entries of a section have the property too. -/
theorem entries {part : String} {inner : Entries} (hinner : Chart.entries es part = .ok inner) :
    ∀ e ∈ inner, Q e.2 := by
  unfold Chart.entries at hinner
  split at hinner
  case h_1 =>
    cases hinner
    nofun
  case h_2 es' hv =>
    cases hinner
    exact fun e => h.entry (h.lookup hes part) hv
  case h_3 => cases hinner

theorem failsOnly_label? (key : String) : FailsOnly P (label? es key) :=
  failsOnly_ite (failsOnly_ok _) <| failsOnly_bind (h.display (h.lookup hes key)) fun _ _ =>
    failsOnly_ok _

theorem failsOnly_field? (key : String) : FailsOnly P (field? es key) :=
  failsOnly_bind (h.failsOnly_label? hes key) fun _ _ => failsOnly_ok _

theorem failsOnly_choice? (α : Type) [Choice α] (what key : String) :
    FailsOnly P (choice? α es what key) := by
  refine failsOnly_bind (h.failsOnly_label? hes key) fun name _ => ?_
  split
  · exact failsOnly_ok _
  · split
    · exact failsOnly_ok _
    · exact failsOnly_error (h.spec _)

theorem failsOnly_readFeed : FailsOnly P (readFeed es) := by
  unfold readFeed
  repeat refine failsOnly_bind (h.failsOnly_texts hes _ _) fun _ _ => ?_
  exact failsOnly_ok _

theorem failsOnly_readEncoding : FailsOnly P (readEncoding es) := by
  unfold readEncoding
  repeat refine failsOnly_bind (h.failsOnly_field? hes _) fun _ _ => ?_
  exact failsOnly_ok _

theorem failsOnly_readAggregation : FailsOnly P (readAggregation es) := by
  refine failsOnly_bind (h.failsOnly_choice? hes _ _ _) fun _ _ =>
    failsOnly_bind (h.failsOnly_choice? hes _ _ _) fun _ _ => ?_
  split
  · exact failsOnly_error (h.spec _)
  · exact failsOnly_ok _

theorem failsOnly_readDirection : FailsOnly P (readDirection es) :=
  failsOnly_bind (h.display (getD_lookup? hes _ (h.text _))) fun _ _ => failsOnly_ok _

theorem failsOnly_readBucket : FailsOnly P (readBucket es) := by
  have hv := getD_lookup? hes "x_bucket" (getD_lookup? hes "xBucket" (h.text "none"))
  refine failsOnly_bind (h.display hv) fun _ _ => ?_
  dsimp only
  split
  · exact failsOnly_ok _
  · exact failsOnly_error (h.spec _)

theorem failsOnly_readTitle : FailsOnly P (readTitle es) :=
  failsOnly_ite (h.display (h.lookup hes _)) (failsOnly_ok _)

omit hes

/-- A specification with the property fails for nothing else. -/
theorem failsOnly_ofValue {v : Value} (hv : Q v) : FailsOnly P (ofValue v) := by
  unfold ofValue
  split
  case h_1 es hopened =>
    have hes : ∀ e ∈ es, Q e.2 := fun e => h.entry hv hopened
    refine failsOnly_bind (h.failsOnly_choice? hes _ _ _) fun type _ => ?_
    split
    · refine failsOnly_bind (h.failsOnly_entries _) fun _ hs =>
        failsOnly_bind (h.failsOnly_readFeed (h.entries hes hs)) fun _ _ => ?_
      refine failsOnly_bind (h.failsOnly_entries _) fun _ hs =>
        failsOnly_bind (h.failsOnly_readEncoding (h.entries hes hs)) fun _ _ => ?_
      refine failsOnly_bind (h.failsOnly_entries _) fun _ hs =>
        failsOnly_bind (h.failsOnly_readAggregation (h.entries hes hs)) fun _ _ => ?_
      refine failsOnly_bind (h.failsOnly_entries _) fun _ hs =>
        failsOnly_bind (h.failsOnly_readDirection (h.entries hes hs)) fun _ _ => ?_
      refine failsOnly_bind (h.failsOnly_entries _) fun _ hs =>
        failsOnly_bind (h.failsOnly_readBucket (h.entries hes hs)) fun _ _ => ?_
      exact failsOnly_bind (h.failsOnly_readTitle (h.entries hes hs)) fun _ _ => failsOnly_ok _
    · exact failsOnly_error (h.spec _)
  case h_2 => exact failsOnly_error (h.spec _)

end Covers

/-- What keeps a specification from being read is a fault in it, or a value without a text. -/
theorem failsIn_ofValue (v : Value) : FailsIn [.chart, .value] (ofValue v) :=
  covers_area.failsOnly_ofValue trivial

end NotePlot.Chart
