import NotePlot.Value.Basic
/-! Values of cells. What collections take over from their parts holds of every value that is found
in a table of cells, and of a knot when it is opened. -/
namespace NotePlot.Value

variable {cells : Array Cell} {known : Array (Option Value)} {Q : Value → Prop}

/-- A property of null and of the knots of a table that the collections made of its cells take over
from their parts. -/
structure IsTakenOver (Q : Value → Prop) (cells : Array Cell) : Prop where
  null : Q .null
  knot (place : Nat) : Q (.knot ⟨cells, place⟩)
  collection {part : Nat → Value} {cell : Cell} (hp : ∀ p, Q (part p)) (hc : cell ∈ cells) :
    Q (ofCell part cell)

/-- A table in which only values with a property are known. -/
def AreKnown (Q : Value → Prop) (known : Array (Option Value)) : Prop :=
  ∀ (place : Nat) (v : Value), known[place]? = some (some v) → Q v

theorem AreKnown.setIfInBounds (h : AreKnown Q known) (place : Nat) {v : Value} (hv : Q v) :
    AreKnown Q (known.setIfInBounds place (some v)) := by
  intro p w hw
  rw [Array.getElem?_setIfInBounds] at hw
  split at hw
  next _ =>
    split at hw
    next _ =>
      cases hw
      exact hv
    next _ => cases hw
  next _ => exact h p w hw

namespace IsTakenOver

variable (hQ : IsTakenOver Q cells)
include hQ

theorem areKnown_sweep (h : AreKnown Q known) : AreKnown Q (sweep cells known) := by
  unfold sweep
  induction List.range cells.size with
  | nil => exact h
  | cons place places ih =>
    rw [List.foldr_cons]
    generalize List.foldr _ known places = later at ih ⊢
    split
    next cell _ hcell =>
      dsimp only
      split
      next _ =>
        refine ih.setIfInBounds place (hQ.collection (fun p => ?_) (Array.mem_of_getElem? hcell))
        cases hp : later[p]?.join with
        | none => exact hQ.null
        | some w => exact ih p w (Option.join_eq_some_iff.mp hp)
      next _ => exact ih
    next _ => exact ih

theorem areKnown_settle (fuel : Nat) (h : AreKnown Q known) :
    AreKnown Q (settle cells fuel known) := by
  induction fuel generalizing known with
  | zero => exact h
  | succ fuel ih =>
    rw [settle]
    split
    · exact h
    · exact ih (hQ.areKnown_sweep h)

theorem areKnown_settled : AreKnown Q (settled cells) := by
  refine hQ.areKnown_settle _ fun place v h => ?_
  rw [Array.getElem?_map] at h
  obtain ⟨_, -, h⟩ := Option.map_eq_some_iff.mp h
  cases h

theorem ofCells (place : Nat) : Q (ofCells cells place) := by
  unfold Value.ofCells atPlace
  cases hv : (settled cells)[place]?.join with
  | none => exact hQ.knot place
  | some v => exact hQ.areKnown_settled place v (Option.join_eq_some_iff.mp hv)

/-- A knot that is opened is made of a cell of its table, if it has a place there. -/
theorem opened (place : Nat) : Q (Value.knot ⟨cells, place⟩).opened := by
  change Q (ofCell (atPlace cells (settled cells)) (cells[place]?.getD default))
  cases hcell : cells[place]? with
  | none => exact hQ.null
  | some cell => exact hQ.collection hQ.ofCells (Array.mem_of_getElem? hcell)

end IsTakenOver
end NotePlot.Value
