import NotePlot.Proofs.Plot.Observation
import NotePlot.Proofs.Plot.Order
import Mathlib.Data.List.Nodup
/-! Groups: each holds the observations at one place, every place has one, and so they make up all
observations without loss or repetition. -/
namespace NotePlot

variable {os : List Observation} {g : Group} {key : String × String}

theorem nodup_eraseDups {α : Type} [BEq α] [LawfulBEq α] (xs : List α) : xs.eraseDups.Nodup := by
  induction hn : xs.length using Nat.strongRecOn generalizing xs with
  | ind n ih =>
    cases xs with
    | nil => simp
    | cons x rest =>
      subst hn
      rw [List.eraseDups_cons, List.nodup_cons]
      exact ⟨by simp, ih _ (Nat.lt_succ_of_le (List.length_filter_le ..)) _ rfl⟩

namespace Observation

/-- Where an observation is drawn: its series, and the key of what it shows. -/
def place (o : Observation) : Option String × String := (o.series, o.key)

/-- The observations at a place, in their order. -/
def gathered (os : List Observation) (place : Option String × String) : List Observation :=
  os.filter (·.place = place)

/-- What the row at a place is sorted by. -/
def sortKeyAt (place : Option String × String) : Row.SortKey := ⟨place.2, seriesName place.1⟩

/-- As no series has an empty name, the lack of one is not mistaken for it. -/
theorem groupKey_eq_iff {o p : Observation} (ho : o.Sound) (hp : p.Sound) :
    o.groupKey = p.groupKey ↔ o.place = p.place := by
  have h1 := ho.series
  have h2 := hp.series
  simp only [groupKey, place, seriesName, Prod.mk.injEq, and_congr_left_iff]
  intro _
  cases ho : o.series <;> cases hp : p.series <;> simp_all [eq_comm]

/-- Places that are told apart and leave none out have gathered everything once. -/
theorem flatMap_gathered_perm {places : List (Option String × String)} (hn : places.Nodup)
    (hm : ∀ o ∈ os, o.place ∈ places) : (places.flatMap (gathered os)).Perm os := by
  have hp : (places.flatMap (gathered os)).Perm (os.filter (·.place ∈ places)) := by
    clear hm
    induction places with
    | nil => simp
    | cons place places ih =>
      obtain ⟨hnot, hn⟩ := List.nodup_cons.mp hn
      have hsplit :=
        List.filter_append_perm (·.place = place) (os.filter (·.place ∈ place :: places))
      have hin : (os.filter (·.place ∈ place :: places)).filter (·.place = place) =
          gathered os place := by
        rw [List.filter_filter]
        apply List.filter_congr
        intro o _
        by_cases ho : o.place = place <;> simp [ho]
      have hout : (os.filter (·.place ∈ place :: places)).filter
          (fun o => !decide (o.place = place)) = os.filter (·.place ∈ places) := by
        rw [List.filter_filter]
        apply List.filter_congr
        intro o _
        by_cases ho : o.place = place <;> simp [ho, hnot]
      rw [hin, hout] at hsplit
      exact ((ih hn).append_left _).trans hsplit
  rwa [List.filter_eq_self.mpr fun o ho => by simpa using hm o ho] at hp

end Observation

namespace Group

open Observation

/-- A key that occurs has a group, which holds all that have the key. -/
theorem ofMembers?_filter (h : key ∈ os.map (·.groupKey)) :
    ∃ g, ofMembers? (os.filter (·.groupKey = key)) = some g ∧ g.head.groupKey = key ∧
      g.members = os.filter (·.groupKey = key) := by
  obtain ⟨o, ho, hk⟩ := List.mem_map.mp h
  cases hf : os.filter (·.groupKey = key) with
  | nil => exact absurd hk (by simpa using List.filter_eq_nil_iff.mp hf o ho)
  | cons p rest =>
    have hp : p ∈ os.filter (·.groupKey = key) := hf ▸ List.mem_cons_self
    exact ⟨⟨p, rest⟩, rfl, by simpa using List.of_mem_filter hp, rfl⟩

theorem members_of_mem (h : g ∈ ofObservations os) :
    g.members = os.filter (·.groupKey = g.head.groupKey) := by
  obtain ⟨key, hk, hg⟩ := List.mem_filterMap.mp h
  obtain ⟨g', hg', hh, hm⟩ := ofMembers?_filter (List.mem_eraseDups.mp hk)
  obtain rfl : g = g' := Option.some.inj (hg.symm.trans hg')
  rw [hm, hh]

theorem head_mem (h : g ∈ ofObservations os) : g.head ∈ os := by
  have hm : g.head ∈ g.members := List.mem_cons_self
  rw [members_of_mem h] at hm
  exact List.mem_of_mem_filter hm

/-- Every key has one group. -/
theorem map_groupKey (os : List Observation) :
    (ofObservations os).map (·.head.groupKey) = (os.map (·.groupKey)).eraseDups := by
  have hk : ∀ key ∈ (os.map (·.groupKey)).eraseDups, key ∈ os.map (·.groupKey) :=
    fun _ => List.mem_eraseDups.mp
  unfold ofObservations
  generalize (os.map (·.groupKey)).eraseDups = keys at hk ⊢
  induction keys with
  | nil => rfl
  | cons key keys ih =>
    obtain ⟨g, hg, hh, -⟩ := ofMembers?_filter (hk key List.mem_cons_self)
    simp only [List.filterMap_cons, hg, List.map_cons, hh]
    rw [ih fun k hm => hk k (List.mem_cons_of_mem _ hm)]

/-- The places of groups are told apart even by what their rows are sorted by. -/
theorem nodup_sortKeys (os : List Observation) :
    (((ofObservations os).map (·.head.place)).map sortKeyAt).Nodup := by
  have hn := nodup_eraseDups (os.map (·.groupKey))
  rw [← map_groupKey] at hn
  apply List.Nodup.of_map fun key => (key.series, key.x)
  rw [List.map_map, List.map_map]
  exact hn

variable (hs : ∀ o ∈ os, o.Sound)
include hs

theorem members_eq_gathered (h : g ∈ ofObservations os) :
    g.members = gathered os g.head.place := by
  rw [members_of_mem h]
  apply List.filter_congr
  intro o ho
  simpa using groupKey_eq_iff (hs o ho) (hs _ (head_mem h))

theorem mem_places {place : Option String × String} :
    place ∈ (ofObservations os).map (·.head.place) ↔ ∃ o ∈ os, o.place = place := by
  rw [List.mem_map]
  constructor
  · rintro ⟨g, hg, rfl⟩
    exact ⟨g.head, head_mem hg, rfl⟩
  · rintro ⟨o, ho, rfl⟩
    have hk : o.groupKey ∈ (ofObservations os).map (·.head.groupKey) := by
      rw [map_groupKey, List.mem_eraseDups]
      exact List.mem_map_of_mem ho
    obtain ⟨g, hg, hk⟩ := List.mem_map.mp hk
    exact ⟨g, hg, (groupKey_eq_iff (hs _ (head_mem hg)) (hs o ho)).mp hk⟩

end Group
end NotePlot
