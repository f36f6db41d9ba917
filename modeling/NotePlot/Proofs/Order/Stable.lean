import Mathlib.Data.List.Basic
import Mathlib.Data.List.Pairwise
/-! Stable sorting: what is sorted is what was given, in order, and among things that may stand in
either order the one that was given first stays first. -/
namespace NotePlot

variable {α : Type} {le : α → α → Bool} {given sorted other : List α}

/-- The second list is the first one sorted, and things of one rank keep their order. -/
structure StablySorted (le : α → α → Bool) (given sorted : List α) : Prop where
  perm : sorted.Perm given
  ordered : sorted.Pairwise fun a b => le a b
  stable : ∀ a, sorted.filter (fun b => le a b && le b a) = given.filter fun b => le a b && le b a

theorem stablySorted_mergeSort (htrans : ∀ a b c, le a b → le b c → le a c)
    (htotal : ∀ a b, le a b || le b a) (given : List α) :
    StablySorted le given (given.mergeSort le) := by
  have hperm := List.mergeSort_perm given le
  refine ⟨hperm, List.pairwise_mergeSort htrans htotal given, fun a => ?_⟩
  have hrank : (given.filter fun b => le a b && le b a).Pairwise fun b c => le b c := by
    apply List.pairwise_of_forall_mem_list
    intro b hb c hc
    simp only [List.mem_filter, Bool.and_eq_true] at hb hc
    exact htrans b a c hb.2.2 hc.2.1
  -- things of one rank are in order already, and what is in order is not torn apart
  have hsub := (List.sublist_mergeSort htrans htotal hrank List.filter_sublist).filter
    fun b => le a b && le b a
  simp only [List.filter_filter, Bool.and_self] at hsub
  refine (hsub.eq_of_length ?_).symm
  exact (hperm.filter _).length_eq.symm

theorem mem_iff_of_ranks (hrefl : ∀ a, le a a)
    (h : ∀ a, sorted.filter (fun b => le a b && le b a) = other.filter fun b => le a b && le b a)
    (a : α) : a ∈ sorted ↔ a ∈ other := by
  have hrank := congrArg (a ∈ ·) (h a)
  simpa [hrefl] using hrank

/-- Lists in order are equal if they hold the same things of each rank in the same order. -/
theorem eq_of_ordered (hrefl : ∀ a, le a a) (hs : sorted.Pairwise fun a b => le a b)
    (ho : other.Pairwise fun a b => le a b)
    (h : ∀ a, sorted.filter (fun b => le a b && le b a) = other.filter fun b => le a b && le b a) :
    sorted = other := by
  induction sorted generalizing other with
  | nil =>
    have hnone := mem_iff_of_ranks hrefl h
    exact (List.eq_nil_iff_forall_not_mem.mpr fun a ha => List.not_mem_nil ((hnone a).mpr ha)).symm
  | cons a later ih =>
    have hmem := mem_iff_of_ranks hrefl h
    cases other with
    | nil => exact absurd ((hmem a).mp List.mem_cons_self) List.not_mem_nil
    | cons b rest =>
      obtain ⟨hfirst, hlater⟩ := List.pairwise_cons.mp hs
      obtain ⟨hfirst', hrest⟩ := List.pairwise_cons.mp ho
      -- either head is in the other list, and so not behind the other head
      have hab : le a b := by
        obtain rfl | hb := List.mem_cons.mp ((hmem b).mpr List.mem_cons_self)
        · exact hrefl b
        · exact hfirst b hb
      have hba : le b a := by
        obtain rfl | ha := List.mem_cons.mp ((hmem a).mp List.mem_cons_self)
        · exact hrefl a
        · exact hfirst' a ha
      have hheads := h a
      rw [List.filter_cons_of_pos (by simp [hrefl]), List.filter_cons_of_pos (by simp [hab, hba])]
        at hheads
      obtain rfl := (List.cons.inj hheads).1
      have htails : ∀ c, later.filter (fun b => le c b && le b c) =
          rest.filter fun b => le c b && le b c := by
        intro c
        have hc := h c
        rw [List.filter_cons, List.filter_cons] at hc
        split at hc
        · exact (List.cons.inj hc).2
        · exact hc
      rw [ih hlater hrest htails]

theorem StablySorted.unique (hrefl : ∀ a, le a a) (hs : StablySorted le given sorted)
    (ho : StablySorted le given other) : sorted = other :=
  eq_of_ordered hrefl hs.ordered ho.ordered fun a => (hs.stable a).trans (ho.stable a).symm

/-- What is left out makes no difference to the order of what is kept. -/
theorem StablySorted.filter (h : StablySorted le given sorted) (p : α → Bool) :
    StablySorted le (given.filter p) (sorted.filter p) where
  perm := h.perm.filter p
  ordered := h.ordered.filter p
  stable a := by rw [List.filter_comm, h.stable, List.filter_comm]

end NotePlot
