import NotePlot.Yaml.Assembly
import NotePlot.Proofs.Value.Cells
/-! Keys: no mapping of a document has two entries under one key, however it was merged and whatever
its nodes share. -/
namespace NotePlot

/-- Entries of which no two have one key. -/
def AreKeyed {β : Type} (es : List (Scalar × β)) : Prop :=
  es.Pairwise fun a b => ¬ a.1.isSameKey b.1

def Cell.IsKeyed : Cell → Prop
  | map es => AreKeyed es
  | _ => True

/-- A mapping whose entries have different keys, or a knot all of whose mappings are such; a value
of any other kind. -/
def Value.IsKeyed : Value → Prop
  | map es => AreKeyed es
  | knot k => ∀ cell ∈ k.cells, cell.IsKeyed
  | _ => True

namespace Value

theorem isKeyed_ofCell {cell : Cell} (h : cell.IsKeyed) (part : Nat → Value) :
    (ofCell part cell).IsKeyed := by
  cases cell with
  | map es => exact List.pairwise_map.mpr h
  | _ => trivial

theorem isTakenOver_isKeyed {cells : Array Cell} (h : ∀ cell ∈ cells, cell.IsKeyed) :
    IsTakenOver IsKeyed cells where
  null := trivial
  knot _ := h
  collection _ hc := isKeyed_ofCell (h _ hc) _

theorem IsKeyed.opened {v : Value} (h : v.IsKeyed) : v.opened.IsKeyed := by
  cases v with
  | knot k => exact (isTakenOver_isKeyed h).opened k.place
  | _ => exact h

end Value

namespace Yaml.Assembly

variable {α β : Type} {Q : α → Prop} {R : β → Prop} {m : Make α} {f : α → Make β} {n : Nat}

/-- All mappings that were made so far have different keys. -/
def AllKeyed (s : Assembly) : Prop := ∀ cell ∈ s.cells, cell.IsKeyed

/-- A step that keeps mappings to different keys, and whose answer has a property. -/
def Keeps (Q : α → Prop) (m : Make α) : Prop :=
  ∀ s a s', m s = .ok (a, s') → s.AllKeyed → Q a ∧ s'.AllKeyed

theorem keeps_pure {a : α} (h : Q a) : Keeps Q (pure a) := by
  rintro s _ _ ⟨⟩ hs
  exact ⟨h, hs⟩

theorem keeps_throw (fault : Fault) : Keeps Q (throw fault) := nofun

theorem keeps_bind (hm : Keeps Q m) (hf : ∀ a, Q a → Keeps R (f a)) : Keeps R (m >>= f) := by
  intro s b s' h hs
  change (m s >>= fun (a, s) => f a s) = _ at h
  cases hrun : m s with
  | error fault =>
    rw [hrun] at h
    cases h
  | ok r =>
    rw [hrun] at h
    obtain ⟨ha, hs⟩ := hm s r.1 r.2 hrun hs
    exact hf r.1 ha r.2 b s' h hs

/-- A step that keeps mappings to different keys, whatever its answer. -/
abbrev KeepsAll (m : Make α) : Prop := Keeps (fun _ => True) m

theorem keeps_get : Keeps AllKeyed (get : Make Assembly) := by
  rintro s _ _ ⟨⟩ hs
  exact ⟨hs, hs⟩

theorem keeps_modify {change : Assembly → Assembly}
    (h : ∀ s, s.AllKeyed → (change s).AllKeyed) : KeepsAll (modify change) := by
  rintro s _ _ ⟨⟩ hs
  exact ⟨trivial, h s hs⟩

theorem keeps_lift (r : Read α) : KeepsAll (liftM r : Make α) := by
  intro s a s' h hs
  cases r with
  | error fault => cases h
  | ok a =>
    cases h
    exact ⟨trivial, hs⟩

theorem keeps_mapM {g : α → Make β} (h : ∀ a, KeepsAll (g a)) (as : List α) :
    KeepsAll (as.mapM g) := by
  induction as with
  | nil => exact keeps_pure trivial
  | cons a as ih =>
    rw [List.mapM_cons]
    exact keeps_bind (h a) fun _ _ => keeps_bind ih fun _ _ => keeps_pure trivial

theorem keeps_forM {g : α → Make PUnit} (h : ∀ a, KeepsAll (g a)) (as : List α) :
    KeepsAll (as.forM g) := by
  induction as with
  | nil => exact keeps_pure trivial
  | cons a as ih => exact keeps_bind (h a) fun _ _ => ih

theorem keeps_findM? {p : α → Make Bool} (h : ∀ a, KeepsAll (p a)) (as : List α) :
    KeepsAll (as.findM? p) := by
  induction as with
  | nil => exact keeps_pure trivial
  | cons a as ih =>
    refine keeps_bind (h a) fun found _ => ?_
    cases found with
    | true => exact keeps_pure trivial
    | false => exact ih

theorem keeps_nodeAt (n : Nat) : KeepsAll (nodeAt n) :=
  keeps_bind keeps_get fun _ _ => keeps_pure trivial

theorem keeps_pairsAt (n : Nat) : KeepsAll (pairsAt n) := by
  refine keeps_bind (keeps_nodeAt n) fun node _ => ?_
  split <;> exact keeps_pure trivial

theorem keeps_setPairs (n : Nat) (pairs : List (Nat × Nat)) : KeepsAll (setPairs n pairs) :=
  keeps_bind (keeps_nodeAt n) fun _ _ => keeps_modify fun _ hs => hs

theorem keeps_hasTag (tag : Tag) (n : Nat) : KeepsAll (hasTag tag n) :=
  keeps_bind (keeps_nodeAt n) fun _ _ => keeps_pure trivial

theorem keeps_textAt (fuel n : Nat) : KeepsAll (textAt fuel n) := by
  induction fuel generalizing n with
  | zero => exact keeps_throw _
  | succ fuel ih =>
    refine keeps_bind (keeps_nodeAt n) fun node _ => ?_
    split
    · exact keeps_pure trivial
    · exact keeps_throw _
    · refine keeps_bind (keeps_findM? (fun _ => keeps_hasTag _ _) _) fun found _ => ?_
      split
      · exact ih _
      · exact keeps_throw _

theorem keeps_addCell {c : Cell} (hc : c.IsKeyed) : KeepsAll (addCell c) := by
  rintro s _ _ ⟨⟩ hs
  refine ⟨trivial, fun cell hcell => ?_⟩
  obtain hcell | rfl := Array.mem_push.mp hcell
  · exact hs cell hcell
  · exact hc

theorem keeps_scalarCell (tag : Tag) (n : Nat) : KeepsAll (scalarCell tag n) := by
  refine keeps_bind keeps_get fun _ _ => keeps_bind (keeps_textAt _ _) fun text _ =>
    keeps_bind (keeps_nodeAt n) fun node _ => ?_
  split
  · exact keeps_throw _
  · split
    · exact keeps_pure trivial
    · exact keeps_bind (keeps_lift _) fun _ _ => keeps_addCell trivial
  · exact keeps_bind (keeps_lift _) fun _ _ => keeps_addCell trivial

theorem keeps_emptyCell {c : Cell} (hc : c.IsKeyed) (n : Nat) : KeepsAll (emptyCell c n) :=
  keeps_bind (keeps_modify fun _ hs => hs) fun _ _ => keeps_addCell hc

theorem keeps_cellOf (n : Nat) : KeepsAll (cellOf n) := by
  have made {m : Make Nat} (hm : KeepsAll m) : KeepsAll (m >>= fun place => do
      modify fun s => { s with made := s.made.setIfInBounds n (some place) }
      return place) :=
    keeps_bind hm fun _ _ => keeps_bind (keeps_modify fun _ hs => hs) fun _ _ => keeps_pure trivial
  refine keeps_bind keeps_get fun _ _ => ?_
  split
  · exact keeps_pure trivial
  · refine keeps_bind (keeps_nodeAt n) fun node _ => ?_
    dsimp only
    split
    case h_1 | h_2 | h_3 | h_5 =>
      refine made (keeps_emptyCell ?_ n)
      trivial
    case h_4 =>
      refine made (keeps_emptyCell ?_ n)
      exact List.Pairwise.nil
    case h_6 | h_7 | h_8 => exact made (keeps_throw _)
    case h_9 => exact made (keeps_scalarCell _ n)

theorem keeps_findMerge (i : Nat) (pairs : List (Nat × Nat)) : KeepsAll (findMerge i pairs) := by
  induction pairs generalizing i with
  | nil => exact keeps_pure trivial
  | cons pair rest ih =>
    refine keeps_bind (keeps_hasTag _ _) fun isMerge _ => ?_
    split
    · exact keeps_pure trivial
    · exact ih _

theorem keeps_takeMerge (n i : Nat) : KeepsAll (takeMerge n i) := by
  refine keeps_bind (keeps_pairsAt n) fun pairs _ => keeps_bind (keeps_findMerge i _) fun found _ => ?_
  dsimp only
  split
  · exact keeps_bind (keeps_setPairs n _) fun _ _ => keeps_pure trivial
  · exact keeps_pure trivial

theorem keeps_settleKey (k : Nat) : KeepsAll (settleKey k) := by
  have put (node : Node) : KeepsAll (settleKey.put k node) := keeps_modify fun _ hs => hs
  refine keeps_bind (keeps_nodeAt k) fun node _ => ?_
  split
  · exact put _
  · exact put _
  · exact put _
  · exact keeps_pure trivial

mutual

theorem keeps_flatten : (fuel n : Nat) → KeepsAll (flatten fuel n)
  | 0, n => by
    rw [flatten]
    exact keeps_throw _
  | fuel + 1, n => by
    rw [flatten]
    refine keeps_bind (keeps_mergedFrom fuel n 0) fun merged _ =>
      keeps_bind (keeps_pairsAt n) fun pairs _ => ?_
    exact keeps_bind (keeps_setPairs n _) fun _ _ => keeps_forM (fun _ => keeps_settleKey _) _

theorem keeps_mergedFrom : (fuel n i : Nat) → KeepsAll (mergedFrom fuel n i)
  | 0, n, i => by
    rw [mergedFrom]
    exact keeps_throw _
  | fuel + 1, n, i => by
    have later {m : Make (List (Nat × Nat))} (hm : KeepsAll m) (j : Nat) :
        KeepsAll (m >>= fun pairs => do return pairs ++ (← mergedFrom fuel n j)) :=
      keeps_bind hm fun _ _ => keeps_bind (keeps_mergedFrom fuel n j) fun _ _ => keeps_pure trivial
    rw [mergedFrom]
    refine keeps_bind (keeps_takeMerge n i) fun found _ => ?_
    split
    · exact keeps_pure trivial
    · refine keeps_bind (keeps_nodeAt _) fun node _ => ?_
      dsimp only
      split
      · exact later (keeps_mergedMapping fuel _) _
      · exact later (keeps_mergedItems fuel _) _
      · exact later (keeps_throw _) _

theorem keeps_mergedMapping : (fuel n : Nat) → KeepsAll (mergedMapping fuel n)
  | 0, n => by
    rw [mergedMapping]
    exact keeps_throw _
  | fuel + 1, n => by
    rw [mergedMapping]
    refine keeps_bind (keeps_nodeAt n) fun node _ => ?_
    split
    · exact keeps_bind (keeps_flatten fuel n) fun _ _ => keeps_pairsAt n
    · exact keeps_throw _

theorem keeps_mergedItems : (fuel : Nat) → (items : List Nat) → KeepsAll (mergedItems fuel items)
  | _, [] => by
    rw [mergedItems]
    exact keeps_pure trivial
  | 0, n :: rest => by
    rw [mergedItems]
    · exact keeps_throw _
    · exact List.cons_ne_nil n rest
  | fuel + 1, n :: rest => by
    rw [mergedItems]
    exact keeps_bind (keeps_mergedMapping fuel n) fun _ _ =>
      keeps_bind (keeps_mergedItems fuel rest) fun _ _ => keeps_pure trivial

end

/-- Entries of which no two have one key, by their places or by themselves. -/
def AreApart (es : List Entry) : Prop := es.Pairwise fun a b => ¬ a.hasKeyOf b

theorem areApart_putEntry {es : List Entry} (h : AreApart es) (e : Entry) :
    AreApart (putEntry es e) := by
  unfold putEntry
  split
  next =>
    have hkey (x y : Entry) : Entry.hasKeyOf (if x.hasKeyOf e then { x with value := e.value } else x)
        (if y.hasKeyOf e then { y with value := e.value } else y) = x.hasKeyOf y := by
      split <;> split <;> rfl
    refine List.pairwise_map.mpr (h.imp fun {x y} hxy => ?_)
    rwa [hkey]
  next hn =>
    refine List.pairwise_append.mpr ⟨h, List.pairwise_singleton _ _, fun x hx y hy => ?_⟩
    rw [List.mem_singleton.mp hy]
    exact fun hxe => hn (List.any_eq_true.mpr ⟨x, hx, hxe⟩)

theorem AreApart.areKeyed {es : List Entry} (h : AreApart es) :
    AreKeyed (es.map fun e => (e.key, e.value)) :=
  List.pairwise_map.mpr (h.imp fun hab hk => hab (Bool.or_eq_true_iff.mpr (.inr hk)))

theorem keeps_entriesOf (pairs : List (Nat × Nat)) {es : List Entry} (h : AreApart es) :
    Keeps AreApart (entriesOf pairs es) := by
  induction pairs generalizing es with
  | nil => exact keeps_pure h
  | cons pair rest ih =>
    refine keeps_bind (keeps_cellOf _) fun place _ => keeps_bind keeps_get fun s _ => ?_
    split
    · exact keeps_bind (keeps_cellOf _) fun _ _ => ih (areApart_putEntry h _)
    · exact keeps_throw _

theorem keeps_entriesAt (n : Nat) : Keeps AreApart (entriesAt n) :=
  keeps_bind keeps_get fun s _ => keeps_bind (keeps_flatten s.bound n) fun _ _ =>
    keeps_bind (keeps_pairsAt n) fun pairs _ => keeps_entriesOf pairs .nil

theorem keeps_soleEntry (n : Nat) : KeepsAll (soleEntry n) := by
  refine keeps_bind (keeps_nodeAt n) fun node _ => ?_
  split
  · exact keeps_bind (keeps_cellOf _) fun _ _ => keeps_bind (keeps_cellOf _) fun _ _ =>
      keeps_addCell trivial
  · exact keeps_throw _

theorem keeps_filled (n : Nat) : Keeps Cell.IsKeyed (filled n) := by
  refine keeps_bind (keeps_nodeAt n) fun node _ => ?_
  split
  case h_1 => exact keeps_bind (keeps_mapM keeps_cellOf _) fun _ _ => keeps_pure trivial
  case h_2 | h_3 => exact keeps_bind (keeps_mapM keeps_soleEntry _) fun _ _ => keeps_pure trivial
  case h_4 => exact keeps_bind (keeps_entriesAt n) fun es hes => keeps_pure hes.areKeyed
  case h_5 => exact keeps_bind (keeps_entriesAt n) fun _ _ => keeps_pure trivial
  case h_6 => exact keeps_throw _

theorem keeps_fillAll (fuel : Nat) : KeepsAll (fillAll fuel) := by
  induction fuel with
  | zero => exact keeps_pure trivial
  | succ fuel ih =>
    refine keeps_bind keeps_get fun s _ => ?_
    split
    · exact keeps_pure trivial
    · refine keeps_bind (keeps_modify fun _ hs => hs) fun _ _ => ?_
      refine keeps_bind (keeps_filled _) fun cell hcell => keeps_bind (keeps_cellOf _) fun place _ => ?_
      refine keeps_bind (keeps_modify fun s hs c hc => ?_) fun _ _ => ih
      obtain hc | rfl := Array.mem_or_eq_of_mem_setIfInBounds hc
      · exact hs c hc
      · exact hcell

theorem keeps_value_all (g : Graph) : KeepsAll (value.all g) :=
  keeps_bind (keeps_cellOf _) fun _ _ => keeps_bind (keeps_fillAll _) fun _ _ => keeps_pure trivial

theorem allKeyed_start (g : Graph) : (start g).AllKeyed := by
  intro cell hc
  rw [List.mem_singleton.mp (List.mem_toArray.mp hc)]
  trivial

end Yaml.Assembly

/-- If a document holds a mapping, it has different keys. -/
theorem Yaml.isKeyed_read {s : String} {v : Value} (h : Yaml.read s = .ok v) : v.IsKeyed := by
  obtain rfl | ⟨graph, place, done, hrun, rfl⟩ := Yaml.read_eq_ok h
  · trivial
  · have hkeyed := Assembly.keeps_value_all graph _ _ _ hrun (Assembly.allKeyed_start graph)
    exact (Value.isTakenOver_isKeyed hkeyed.2).ofCells place

end NotePlot
