import NotePlot.Proofs.Value.Cells
import NotePlot.Proofs.Value.Written
/-! The scalars of a value. What makes each of them fit to be written makes the value so, knots too.
-/
namespace NotePlot

open Outcome

variable {P : Failure → Prop} {p q : Scalar → Prop} {v : Value} {k : Knot} {cells : Array Cell}

/-- A scalar that has a text, or lacks one for a failure of this sort. -/
def Scalar.IsExcused (P : Failure → Prop) (s : Scalar) : Prop :=
  s.isWritable = false → P (.range .integerTooLong)

/-- Each scalar in a cell, keys of entries too, is of this sort. -/
def Cell.AllScalars (p : Scalar → Prop) : Cell → Prop
  | scalar s => p s
  | list _ | tuple _ => True
  | set items => ∀ s ∈ items, p s
  | map es => ∀ e ∈ es, p e.1

theorem Cell.AllScalars.mono {cell : Cell} (h : cell.AllScalars p) (hs : ∀ s, p s → q s) :
    cell.AllScalars q := by
  cases cell with
  | scalar s => exact hs s h
  | list | tuple => trivial
  | set items => exact fun s hmem => hs s (h s hmem)
  | map es => exact fun e hmem => hs e.1 (h e hmem)

theorem Cell.allScalars_true (cell : Cell) : cell.AllScalars fun _ => True := by
  cases cell <;> simp [AllScalars]

theorem Knot.allScalars_cellAt (hn : p .null) (h : ∀ cell ∈ k.cells, cell.AllScalars p)
    (place : Nat) : (k.cellAt place).AllScalars p := by
  unfold cellAt
  cases hcell : k.cells[place]? with
  | none => exact hn
  | some cell => exact h cell (Array.mem_of_getElem? hcell)

/-- A knot fails for a scalar in one of its cells, if it does. -/
theorem Knot.failsOnly_quotedAt (h : ∀ cell ∈ k.cells, cell.AllScalars (Scalar.IsExcused P))
    (fuel : Nat) (around : List Nat) (place : Nat) :
    FailsOnly P (k.quotedAt fuel around place) := by
  induction fuel generalizing around place with
  | zero => exact failsOnly_ok _
  | succ fuel ih =>
    rw [quotedAt]
    refine failsOnly_ite (failsOnly_ok _) ?_
    have part : ∀ p, FailsOnly P (k.quotedAt fuel (place :: around) p) := ih _
    have hcell := allScalars_cellAt (p := Scalar.IsExcused P) nofun h place
    generalize k.cellAt place = cell at hcell ⊢
    cases cell with
    | scalar s => exact s.failsOnly_written _ hcell
    | list ps | tuple ps =>
      exact failsOnly_bind (failsOnly_mapM fun p _ => part p) fun _ _ => failsOnly_ok _
    | set items =>
      refine failsOnly_bind (failsOnly_mapM fun s hs => ?_) fun _ _ => failsOnly_ok _
      exact s.failsOnly_written _ (hcell s hs)
    | map es =>
      refine failsOnly_bind (failsOnly_mapM fun (name, p) he => ?_) fun _ _ => failsOnly_ok _
      exact failsOnly_bind (name.failsOnly_written _ (hcell (name, p) he)) fun _ _ =>
        failsOnly_bind (part p) fun _ _ => failsOnly_ok _

/-- An object of the host that refuses none of its texts. -/
def Foreign.IsPrintable (o : Foreign) : Prop := ∃ s t, o.display = some s ∧ o.quoted = some t

namespace Value

/-- A value that no object of the host keeps from being written, each scalar of which, keys and
those in the cells of knots too, is of this sort. -/
inductive AllScalars (p : Scalar → Prop) : Value → Prop
  | scalar {s : Scalar} (h : p s) : AllScalars p (.scalar s)
  | list {xs : List Value} (h : ∀ x ∈ xs, AllScalars p x) : AllScalars p (.list xs)
  | tuple {xs : List Value} (h : ∀ x ∈ xs, AllScalars p x) : AllScalars p (.tuple xs)
  | set {xs : List Value} (h : ∀ x ∈ xs, AllScalars p x) : AllScalars p (.set xs)
  | map {es : List (Scalar × Value)} (hk : ∀ e ∈ es, p e.1) (h : ∀ e ∈ es, AllScalars p e.2) :
      AllScalars p (.map es)
  | foreign {o : Foreign} (h : o.IsPrintable) : AllScalars p (.foreign o)
  | arrayLike {o : Foreign} (h : o.IsPrintable) (v : Value) : AllScalars p (.arrayLike o v)
  | knot {k : Knot} (h : ∀ cell ∈ k.cells, cell.AllScalars p) : AllScalars p (.knot k)

/-- A value without integers of too many digits. -/
def IsWritable (v : Value) : Prop := v.AllScalars (·.isWritable = true)

namespace AllScalars

theorem mono (h : v.AllScalars p) (hs : ∀ s, p s → q s) : v.AllScalars q := by
  induction h with
  | scalar h => exact .scalar (hs _ h)
  | list _ ih => exact .list ih
  | tuple _ ih => exact .tuple ih
  | set _ ih => exact .set ih
  | map hk _ ih => exact .map (fun e he => hs _ (hk e he)) ih
  | foreign h => exact .foreign h
  | arrayLike h v => exact .arrayLike h v
  | knot h => exact .knot fun cell hc => (h cell hc).mono hs

theorem failsOnly_told {told? : Option String} {s : String} (h : told? = some s) :
    FailsOnly P (told told?) := by
  rw [h]
  exact failsOnly_ok _

theorem failsOnly_quoted (h : v.AllScalars (Scalar.IsExcused P)) : FailsOnly P v.quoted := by
  induction h with
  | scalar h => exact Scalar.failsOnly_written _ h
  | list _ ih | tuple _ ih | set _ ih =>
    exact failsOnly_bind (failsOnly_quotedItems ih) fun _ _ => failsOnly_ok _
  | map hk _ ih =>
    refine failsOnly_bind (failsOnly_quotedEntries (fun e he => ?_) ih) fun _ _ => failsOnly_ok _
    exact e.1.failsOnly_written _ (hk e he)
  | foreign h | arrayLike h _ =>
    obtain ⟨-, t, -, ht⟩ := h
    exact failsOnly_told ht
  | knot h => exact Knot.failsOnly_quotedAt h _ _ _

theorem failsOnly_display (h : v.AllScalars (Scalar.IsExcused P)) : FailsOnly P v.display := by
  unfold display
  split
  next s =>
    cases h with
    | scalar h => exact s.failsOnly_written _ h
  next o =>
    cases h with
    | foreign h =>
      obtain ⟨s, -, hs, -⟩ := h
      exact failsOnly_told hs
  next o inner =>
    cases h with
    | arrayLike h _ =>
      obtain ⟨s, -, hs, -⟩ := h
      exact failsOnly_told hs
  next => exact h.failsOnly_quoted

theorem isTakenOver (hn : p .null) (h : ∀ cell ∈ cells, cell.AllScalars p) :
    IsTakenOver (AllScalars p) cells where
  null := .scalar hn
  knot place := .knot h
  collection {part cell} hp hc := by
    have hcell := h cell hc
    cases cell with
    | scalar s => exact .scalar hcell
    | list ps => exact .list (List.forall_mem_map.mpr fun p _ => hp p)
    | tuple ps => exact .tuple (List.forall_mem_map.mpr fun p _ => hp p)
    | set items => exact .set (List.forall_mem_map.mpr fun s hs => .scalar (hcell s hs))
    | map es =>
      exact .map (List.forall_mem_map.mpr fun e he => hcell e he)
        (List.forall_mem_map.mpr fun e _ => hp e.2)

theorem opened (hn : p .null) (h : v.AllScalars p) : v.opened.AllScalars p := by
  cases h with
  | knot h => exact (isTakenOver hn h).opened _
  | scalar h => exact .scalar h
  | list h => exact .list h
  | tuple h => exact .tuple h
  | set h => exact .set h
  | map hk h => exact .map hk h
  | foreign h => exact .foreign h
  | arrayLike h v => exact .arrayLike h v

end AllScalars
end Value

end NotePlot
