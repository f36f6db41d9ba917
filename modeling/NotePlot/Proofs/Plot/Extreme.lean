import NotePlot.Proofs.Plot.Notes
import NotePlot.Proofs.Value.Double
import NotePlot.Proofs.Value.Number

/-! Least and greatest heights: the row of a group is as high as one of its observations, and none
of them is lower, or higher. -/
namespace NotePlot

variable {c : Chart} {style : PlotStyle} {r : Reduction} {notes : List Note}
  {os : List Observation} {rows : List (Row Float)} {row : Row Float} {o : Observation}

open Observation

/-- Of any two elements one is picked that bears a relation to both. -/
structure Picks {β : Type} (R : β → β → Prop) (pick : β → β → β) : Prop where
  eq : ∀ a b, pick a b = a ∨ pick a b = b
  left : ∀ a b, R (pick a b) a
  right : ∀ a b, R (pick a b) b

/-- Picking by a condition that puts one of two elements before the other. -/
theorem picks_ite {β : Type} {R p : β → β → Prop} [DecidableRel p] (hrefl : ∀ a, R a a)
    (hp : ∀ {a b}, p a b → R b a) (hn : ∀ {a b}, ¬ p a b → R a b) :
    Picks R fun a b => if p a b then b else a where
  eq a b := by
    split
    · exact .inr rfl
    · exact .inl rfl
  left a b := by
    split
    next h => exact hp h
    next => exact hrefl a
  right a b := by
    split
    next => exact hrefl b
    next h => exact hn h

/-- What is left when elements are picked one after the other is one of them and bears the relation
to all. -/
theorem Picks.foldl {β : Type} {R : β → β → Prop} {pick : β → β → β} (h : Picks R pick)
    (hrefl : ∀ a, R a a) (htrans : ∀ a b c, R a b → R b c → R a c) (b : β) (bs : List β) :
    bs.foldl pick b ∈ b :: bs ∧ ∀ a ∈ b :: bs, R (bs.foldl pick b) a := by
  induction bs generalizing b with
  | nil => exact ⟨List.mem_cons_self, List.forall_mem_singleton.mpr (hrefl b)⟩
  | cons d bs ih =>
    obtain ⟨hmem, hall⟩ := ih (pick b d)
    obtain ⟨hpicked, hrest⟩ := List.forall_mem_cons.mp hall
    rw [List.foldl_cons]
    constructor
    · obtain he | hin := List.mem_cons.mp hmem
      · rw [he]
        obtain hb | hd := h.eq b d
        · rw [hb]
          exact List.mem_cons_self
        · rw [hd]
          exact List.mem_cons_of_mem b List.mem_cons_self
      · exact List.mem_cons_of_mem b (List.mem_cons_of_mem d hin)
    · refine List.forall_mem_cons.mpr ⟨?_, List.forall_mem_cons.mpr ⟨?_, hrest⟩⟩
      · exact htrans _ _ _ hpicked (h.left b d)
      · exact htrans _ _ _ hpicked (h.right b d)

namespace Reduction

theorem picks_lesser : Picks (fun a b : Number => a.val ≤ b.val) lesser :=
  picks_ite Number.val_le_refl Number.val_le_of_lt Number.val_le_of_not_lt

theorem picks_greater : Picks (fun a b : Number => b.val ≤ a.val) greater :=
  picks_ite Number.val_le_refl Number.val_le_of_lt Number.val_le_of_not_lt

/-- Values are reduced to the least of them. -/
theorem apply_min (y : Number) (ys : List Number) :
    ∃ n ∈ y :: ys, Reduction.min.apply y ys = n.val ∧ ∀ m ∈ y :: ys, n.val ≤ m.val := by
  obtain ⟨hmem, hall⟩ := picks_lesser.foldl Number.val_le_refl Number.val_le_trans y ys
  exact ⟨_, hmem, rfl, hall⟩

/-- Values are reduced to the greatest of them. -/
theorem apply_max (y : Number) (ys : List Number) :
    ∃ n ∈ y :: ys, Reduction.max.apply y ys = n.val ∧ ∀ m ∈ y :: ys, m.val ≤ n.val := by
  obtain ⟨hmem, hall⟩ := picks_greater.foldl Number.val_le_refl
    (fun a b c hab hbc => Number.val_le_trans c b a hbc hab) y ys
  exact ⟨_, hmem, rfl, hall⟩

end Reduction

/-- A row is as high as one of the observations, and none of them is lower, or higher. -/
structure Row.IsExtreme (r : Reduction) (row : Row Float) (os : List Observation) : Prop where
  height : ∃ o ∈ os, row.y = o.y.val
  least : r = .min → ∀ o ∈ os, row.y ≤ o.y.val
  greatest : r = .max → ∀ o ∈ os, o.y.val ≤ row.y

namespace Group

/-- What is picked from the heights of a group is the height of one of its observations. -/
theorem exists_picked {R : Number → Number → Prop} (g : Group)
    (h : ∃ n ∈ g.head.y :: g.tail.map (·.y), r.apply g.head.y (g.tail.map (·.y)) = n.val ∧
      ∀ m ∈ g.head.y :: g.tail.map (·.y), R n m) :
    ∃ o ∈ g.members, (g.row r).y = o.y.val ∧ ∀ p ∈ g.members, R o.y p.y := by
  have hmap : g.members.map (·.y) = g.head.y :: g.tail.map (·.y) := rfl
  rw [← hmap] at h
  obtain ⟨n, hn, happly, hall⟩ := h
  obtain ⟨o, ho, rfl⟩ := List.mem_map.mp hn
  exact ⟨o, ho, happly, fun p hp => hall p.y (List.mem_map_of_mem hp)⟩

theorem isExtreme_row (hr : r = .min ∨ r = .max) (g : Group) :
    (g.row r).IsExtreme r g.members := by
  obtain rfl | rfl := hr
  · obtain ⟨o, ho, hy, hall⟩ := g.exists_picked (Reduction.apply_min _ _)
    constructor
    case height => exact ⟨o, ho, hy⟩
    case least =>
      intro _ p hp
      rw [hy]
      exact hall p hp
    case greatest =>
      intro hmax
      cases hmax
  · obtain ⟨o, ho, hy, hall⟩ := g.exists_picked (Reduction.apply_max _ _)
    constructor
    case height => exact ⟨o, ho, hy⟩
    case least =>
      intro hmin
      cases hmin
    case greatest =>
      intro _ p hp
      rw [hy]
      exact hall p hp

end Group

namespace Chart

/-- Without running sums and means, every row of a grouped chart is that of a group. -/
theorem exists_group_of_mem (hred : c.aggregation.reduction = some r)
    (hs : ∀ o ∈ os, o.Sound) (hsort : Row.sort c.direction (c.unsorted os) = .ok rows)
    (hrow : row ∈ rows) : ∃ g ∈ Group.ofObservations os, row = g.row r := by
  obtain ⟨sorted, keys, hsorted, hperm, -⟩ :=
    Row.sort_of_sortKeys c.direction (sortKey_unsorted (c := c) hs)
  obtain rfl : sorted = rows := Except.ok.inj (hsorted.symm.trans hsort)
  have hin : row ∈ c.unsorted os := hperm.mem_iff.mp hrow
  rw [unsorted, hred] at hin
  obtain ⟨g, hg, he⟩ := List.mem_map.mp hin
  exact ⟨g, hg, he.symm⟩

/-- What a sighting gives rise to is as high as the double in the property of its note. -/
theorem double_of_givesRise {s : Sighting} (hred : c.aggregation.reduction ≠ some .count)
    (h : s.GivesRise c o) :
    (channel s.note.properties c.encoding.y).first.double = .ok (some o.y.val) := by
  have hheight := h.height
  rw [height?_eq, if_neg hred] at hheight
  exact Value.double_of_number hheight

/-- Each row is as high as an observation of its series at its position, and none of these is lower
if the least heights are asked for, or higher if the greatest ones are. All heights are numbers, as
whatever double a property holds or spells is one. -/
theorem points_extreme (hcumulative : c.aggregation.cumulative = false)
    (hrolling : c.aggregation.rolling.isSet = false) (hred : c.aggregation.reduction = some r)
    (hr : r = .min ∨ r = .max) (h : c.points style notes = .ok rows) :
    (∃ os : List Observation,
      List.Forall₂ (fun s o => s.GivesRise c o ∧
          (channel s.note.properties c.encoding.y).first.double = .ok (some o.y.val))
        (Sighting.ofNotes c style notes) os ∧
      ∀ row ∈ rows, ∃ key, row.x.plain = .ok key ∧
        row.IsExtreme r (gathered os (row.series, key)) ∧ row.y.isNaN = false) ∧
    ∀ (v : Value) (x : Float), v.double = .ok (some x) → x.isNaN = false := by
  have hcount : c.aggregation.reduction ≠ some .count := by
    rw [hred]
    obtain rfl | rfl := hr <;> decide
  rw [points_of_still hcumulative hrolling] at h
  obtain ⟨os, hos, hsort⟩ := Outcome.bind_eq_ok.mp h
  have hs : ∀ o ∈ os, o.Sound := sound_ofNotes hos
  refine ⟨⟨os, ?_, ?_⟩, fun v x hx => Value.isNaN_of_double hx⟩
  · exact (givesRise_ofNotes hos).imp fun s o hrise => ⟨hrise, double_of_givesRise hcount hrise⟩
  · intro row hrow
    obtain ⟨g, hg, rfl⟩ := exists_group_of_mem hred hs hsort hrow
    have hextreme := Group.isExtreme_row hr g
    rw [Group.members_eq_gathered hs hg] at hextreme
    obtain ⟨o, ho, hy⟩ := hextreme.height
    refine ⟨g.head.key, (hs _ (Group.head_mem hg)).text, hextreme, ?_⟩
    rw [hy]
    exact o.y.isNumber

/-- The least efforts in each area. -/
def leastEfforts : Chart :=
  { tagPie with
    type := .bar
    encoding := { x := FieldName.of? "area", y := FieldName.of? "effort" }
    aggregation := ⟨some .min, false, .null, none⟩
    direction := .ascending }

def efforts : List Note :=
  [⟨"a.md", [("area", .text "home"), ("effort", .text " +2.5e1")]⟩,
    ⟨"b.md", [("area", .text "home"), ("effort", .scalar (.bool true))]⟩]

theorem readable_efforts : ∀ note ∈ efforts, note.Readable leastEfforts {} := by
  intro note hn
  simp only [efforts, List.mem_cons, List.not_mem_nil, or_false] at hn
  have hvalues : ∀ v ∈ [Value.text "home"], ∃ s, v.plain = .ok s :=
    List.forall_mem_singleton.mpr ⟨"home", rfl⟩
  have hsmall : ¬ Numeral.IsTooLarge (Text.trim " +2.5e1".toList) := by
    rintro ⟨n, hn, -⟩
    cases hn
  rcases hn with rfl | rfl
  · exact ⟨fun _ => exists_numberInText hsmall, ⟨_, rfl⟩, hvalues⟩
  · exact ⟨fun _ => ⟨some .one, rfl⟩, ⟨_, rfl⟩, hvalues⟩

theorem mem_paths_efforts : "b.md" ∈ Sighting.paths (Sighting.ofNotes leastEfforts {} efforts) := by
  have hnote : ⟨"b.md", [("area", .text "home"), ("effort", .scalar (.bool true))]⟩ ∈ efforts :=
    List.mem_cons_of_mem _ List.mem_cons_self
  exact List.mem_map.mpr ⟨_, List.mem_flatMap.mpr ⟨_, hnote, List.mem_cons_self⟩, rfl⟩

theorem points_extreme_efforts : leastEfforts.aggregation.cumulative = false ∧
    leastEfforts.aggregation.rolling.isSet = false ∧
    leastEfforts.aggregation.reduction = some .min ∧
    ∃ rows, leastEfforts.points {} efforts = .ok rows ∧ rows ≠ [] ∧
      ∃ os : List Observation,
        List.Forall₂ (fun s o => s.GivesRise leastEfforts o ∧
            (channel s.note.properties (FieldName.of? "effort")).first.double = .ok (some o.y.val))
          (Sighting.ofNotes leastEfforts {} efforts) os ∧
        ∀ row ∈ rows, ∃ key, row.x.plain = .ok key ∧
          row.IsExtreme .min (gathered os (row.series, key)) ∧ row.y.isNaN = false := by
  obtain ⟨os, hos⟩ := ofNotes_of_readable readable_efforts
  obtain ⟨rows, h, -⟩ := points_of_ofNotes rfl rfl hos
  have hne : rows ≠ [] := by
    rintro rfl
    exact List.not_mem_nil ((flatMap_notes_perm_paths h).mem_iff.mpr mem_paths_efforts)
  exact ⟨rfl, rfl, rfl, rows, h, hne, (points_extreme rfl rfl rfl (.inl rfl) h).1⟩

end Chart
end NotePlot
