import NotePlot.Note.Basic
import NotePlot.Proofs.Query.FailFast

/-! What an index holds, told from its history: of each path the note that was stored last, unless
the path was dropped since, and the paths in the order in which they came. Notes with paths of their
own are the same to a query in an index and from a host. -/
namespace NotePlot

open Outcome

namespace Note

variable {v : Value} {fault : NoteFault} {es : Entries} {path : String}

/-- What a raw form gives for properties, under the first of two names. -/
def given (es : Entries) : Value :=
  (Value.lookup? es "properties").getD (Value.lookup es "props")

/-- What is reported about a raw form that is no note: its path is unset, or its properties are set
and no mapping. -/
inductive Malformed : Value → NoteFault → Prop
  | path {v : Value} {es : Entries} (opened : v.opened = .map es)
      (unset : (Value.lookup es "path").isSet = false) : Malformed v .pathMissing
  | properties {v : Value} {es : Entries} {path : String} (opened : v.opened = .map es)
      (named : (Value.lookup es "path").isSet) (shown : (Value.lookup es "path").display = .ok path)
      (isGiven : (given es).isSet) (apart : ∀ props, (given es).opened ≠ .map props) :
      Malformed v (.propertiesNotMapping path)

theorem propertiesOf_eq_note_iff : propertiesOf path es = .error (.note fault) ↔
    (given es).isSet ∧ (∀ props, (given es).opened ≠ .map props) ∧
      fault = .propertiesNotMapping path := by
  unfold propertiesOf
  dsimp only
  split
  next props hprops => exact iff_of_false nofun fun h => h.2.1 props hprops
  next hn =>
    split
    next hset =>
      constructor
      · rintro ⟨⟩
        exact ⟨hset, hn, rfl⟩
      · rintro ⟨-, -, rfl⟩
        rfl
    next hset => exact iff_of_false nofun fun h => hset h.1

theorem ofValue_eq_note_iff : ofValue v = .error (.note fault) ↔ Malformed v fault := by
  unfold ofValue
  split
  next es hes =>
    by_cases hset : (Value.lookup es "path").isSet
    · rw [if_neg (by simp [hset])]
      constructor
      · intro h
        obtain h | ⟨path, hpath, h⟩ := bind_eq_error.mp h
        · exact absurd h ((Value.failsIn_display _).ne_error (by simp [Failure.area]))
        · obtain h | ⟨_, -, h⟩ := bind_eq_error.mp h
          · obtain ⟨hgiven, hapart, rfl⟩ := propertiesOf_eq_note_iff.mp h
            exact .properties hes hset hpath hgiven hapart
          · cases h
      · rintro (⟨hes', hunset⟩ | ⟨hes', -, hpath, hgiven, hapart⟩)
        · cases hes.symm.trans hes'
          cases hunset.symm.trans hset
        · cases hes.symm.trans hes'
          refine bind_eq_error.mpr (.inr ⟨_, hpath, bind_eq_error.mpr (.inl ?_)⟩)
          exact propertiesOf_eq_note_iff.mpr ⟨hgiven, hapart, rfl⟩
    · rw [if_pos (by simp [hset])]
      constructor
      · rintro ⟨⟩
        exact .path hes (eq_false_of_ne_true hset)
      · rintro (⟨hes', hunset⟩ | ⟨hes', hnamed, -⟩)
        · rfl
        · cases hes.symm.trans hes'
          exact (hset hnamed).elim
  next hn =>
    refine iff_of_false (fun h => by cases h) ?_
    rintro (⟨hes, -⟩ | ⟨hes, -⟩) <;> exact hn _ hes

end Note

namespace Index

/-- What changes an index. -/
inductive Event
  | stored (note : Note)
  | dropped (path : String)

namespace Event

def path : Event → String
  | stored note => note.path
  | dropped path => path

def Stores (path : String) (e : Event) : Prop := ∃ note, e = stored note ∧ note.path = path

end Event

/-- Items that are no notes leave no trace. -/
def Step.events : Step → List Event
  | upsert item => (item.note.toOption.map Event.stored).toList
  | remove path => [.dropped path]
  | get _ | contains _ | all | size => []

/-- The history of an index that began with some notes. -/
def history (notes : List Note) (steps : List Step) : List Event :=
  notes.map .stored ++ steps.flatMap Step.events

/-- Something happened, and nothing of another kind has happened since. -/
def Since (what : List Event → Event → Prop) (breaks : Event → Prop) (h : List Event) : Prop :=
  ∃ earlier e later, h = earlier ++ e :: later ∧ what earlier e ∧ ∀ x ∈ later, ¬ breaks x

/-- A path was stored, and has not been dropped since. -/
def Kept (path : String) : List Event → Prop :=
  Since (fun _ e => e.Stores path) (· = .dropped path)

/-- A note was stored, and nothing has happened to its path since. -/
def Latest (note : Note) : List Event → Prop :=
  Since (fun _ e => e = .stored note) (·.path = note.path)

/-- A path that was not kept came in with the event at this place, and has not been dropped since.
-/
def CameAt (path : String) (place : Nat) : List Event → Prop :=
  Since (fun earlier e => e.Stores path ∧ ¬ Kept path earlier ∧ earlier.length = place)
    (· = .dropped path)

def CameBefore (h : List Event) (p q : String) : Prop :=
  ∃ m n, CameAt p m h ∧ CameAt q n h ∧ m < n

variable {what : List Event → Event → Prop} {breaks : Event → Prop} {h : List Event} {e : Event}
  {path p q : String} {place m n : Nat} {note other : Note} {ix : Index} {notes : List Note}

theorem not_since_nil : ¬ Since what breaks [] := by
  rintro ⟨earlier, e, later, h, -⟩
  simp at h

theorem since_append : Since what breaks (h ++ [e]) ↔
    what h e ∨ ¬ breaks e ∧ Since what breaks h := by
  constructor
  · rintro ⟨earlier, x, later, heq, hx, hlater⟩
    rcases List.eq_nil_or_concat later with rfl | ⟨later, last, rfl⟩
    · obtain ⟨rfl, rfl⟩ := List.append_singleton_inj.mp heq
      exact .inl hx
    · rw [List.concat_eq_append] at heq hlater
      rw [← List.cons_append, ← List.append_assoc] at heq
      obtain ⟨rfl, rfl⟩ := List.append_singleton_inj.mp heq
      refine .inr ⟨hlater e (by simp), earlier, x, later, rfl, hx, fun y hy => hlater y ?_⟩
      exact List.mem_append_left _ hy
  · rintro (hx | ⟨he, earlier, x, later, rfl, hx, hlater⟩)
    · exact ⟨h, e, [], rfl, hx, by simp⟩
    · refine ⟨earlier, x, later ++ [e], by simp, hx, fun y hy => ?_⟩
      rcases List.mem_append.mp hy with hy | hy
      · exact hlater y hy
      · obtain rfl := List.mem_singleton.mp hy
        exact he

theorem kept_append_stored : Kept path (h ++ [.stored note]) ↔ note.path = path ∨ Kept path h := by
  rw [Kept, since_append]
  simp [Event.Stores]

theorem kept_append_dropped : Kept path (h ++ [.dropped p]) ↔ p ≠ path ∧ Kept path h := by
  rw [Kept, since_append]
  simp [Event.Stores]

theorem latest_append_stored : Latest note (h ++ [.stored other]) ↔
    note = other ∨ note.path ≠ other.path ∧ Latest note h := by
  rw [Latest, since_append]
  simp [Event.path, eq_comm]

theorem latest_append_dropped : Latest note (h ++ [.dropped p]) ↔ note.path ≠ p ∧ Latest note h := by
  rw [Latest, since_append]
  simp [Event.path, eq_comm]

theorem cameAt_append (hcame : CameAt path place h) (he : e ≠ .dropped path) :
    CameAt path place (h ++ [e]) := since_append.mpr (.inr ⟨he, hcame⟩)

theorem cameAt_stored (hnew : ¬ Kept note.path h) :
    CameAt note.path h.length (h ++ [.stored note]) :=
  since_append.mpr (.inl ⟨⟨note, rfl, rfl⟩, hnew, rfl⟩)

theorem lt_length_of_cameAt (hcame : CameAt path place h) : place < h.length := by
  obtain ⟨earlier, e, later, rfl, ⟨-, -, rfl⟩, -⟩ := hcame
  simp

/-- A path that is kept came in at one place only. -/
theorem CameAt.unique (hm : CameAt path m h) (hn : CameAt path n h) : m = n := by
  have not_lt {a b : Nat} (ha : CameAt path a h) (hb : CameAt path b h) : ¬ a < b := by
    rintro hab
    obtain ⟨early, d, later, rfl, ⟨hd, -, rfl⟩, hlater⟩ := ha
    obtain ⟨earlier, x, last, heq, ⟨-, hnew, rfl⟩, -⟩ := hb
    -- the later coming lies among the events after the earlier one, which keep the path
    have hlength : (early ++ [d]).length ≤ earlier.length := by
      rw [List.length_append]
      exact hab
    obtain ⟨between, rfl⟩ : early ++ [d] <+: earlier :=
      List.prefix_of_prefix_length_le ⟨later, by simp⟩ ⟨x :: last, heq.symm⟩ hlength
    have hsplit : later = between ++ x :: last := by simpa using heq
    refine hnew ⟨early, d, between, by simp, hd, fun y hy => hlater y ?_⟩
    rw [hsplit]
    exact List.mem_append_left _ hy
  exact Nat.le_antisymm (Nat.not_lt.mp (not_lt hn hm)) (Nat.not_lt.mp (not_lt hm hn))

/-- An index that holds what its history tells. -/
structure Records (h : List Event) (ix : Index) : Prop where
  latest : ∀ note, note ∈ ix.notes ↔ Latest note h
  kept : ∀ path, path ∈ ix.paths ↔ Kept path h
  came : ∀ path ∈ ix.paths, ∃ n, CameAt path n h
  order : ix.paths.Pairwise (CameBefore h)

theorem contains_iff : ix.contains path ↔ path ∈ ix.paths := List.contains_iff_mem

theorem get?_eq_some_iff : ix.get? path = some note ↔ note.path = path ∧ note ∈ ix.notes := by
  have found {n : Note} (h : ix.get? path = some n) : n.path = path ∧ n ∈ ix.notes := by
    have h : List.find? (fun n => n.path == path) ix.notes = some n := h
    have hpath := List.find?_some h
    exact ⟨eq_of_beq hpath, List.mem_of_find?_eq_some h⟩
  refine ⟨found, fun ⟨hpath, hmem⟩ => ?_⟩
  have hsome : (ix.get? path).isSome :=
    List.find?_isSome.mpr ⟨note, hmem, beq_iff_eq.mpr hpath⟩
  obtain ⟨other, hother⟩ := Option.isSome_iff_exists.mp hsome
  obtain ⟨hsame, hin⟩ := found hother
  rw [hother, List.inj_on_of_nodup_map ix.distinct hin hmem (hsame.trans hpath.symm)]

theorem paths_upsert : (ix.upsert note).paths =
    if ix.contains note.path then ix.paths else ix.paths ++ [note.path] := by
  unfold upsert
  split
  · exact map_path_replace _ _
  · simp [paths]

theorem mem_upsert : other ∈ (ix.upsert note).notes ↔
    other = note ∨ other.path ≠ note.path ∧ other ∈ ix.notes := by
  unfold upsert
  split
  next hin =>
    obtain ⟨old, hold, hpath⟩ := List.mem_map.mp (contains_iff.mp hin)
    simp only [replace, List.mem_map]
    constructor
    · rintro ⟨x, hx, rfl⟩
      by_cases hxp : x.path = note.path
      · simp [hxp]
      · simp [hxp, hx]
    · rintro (rfl | ⟨hne, hmem⟩)
      · exact ⟨old, hold, if_pos hpath⟩
      · exact ⟨other, hmem, if_neg hne⟩
  next hout =>
    have hne : other ∈ ix.notes → other.path ≠ note.path := fun hmem hpath =>
      hout (contains_iff.mpr (hpath ▸ List.mem_map_of_mem hmem))
    simp only [List.mem_append, List.mem_singleton]
    constructor
    · rintro (hmem | rfl)
      · exact .inr ⟨hne hmem, hmem⟩
      · exact .inl rfl
    · rintro (rfl | ⟨-, hmem⟩)
      · exact .inr rfl
      · exact .inl hmem

theorem paths_erase : (ix.erase path).paths = ix.paths.filter (· ≠ path) := by
  unfold erase paths
  rw [List.filter_map]
  congr 1
  refine List.filter_congr fun note _ => Bool.eq_iff_iff.mpr ?_
  simp

theorem records_empty : Records [] empty where
  latest _ := iff_of_false List.not_mem_nil not_since_nil
  kept _ := iff_of_false List.not_mem_nil not_since_nil
  came _ hpath := (List.not_mem_nil hpath).elim
  order := .nil

theorem cameBefore_append (hpq : CameBefore h p q) (hp : e ≠ .dropped p) (hq : e ≠ .dropped q) :
    CameBefore (h ++ [e]) p q := by
  obtain ⟨m, n, hm, hn, hlt⟩ := hpq
  exact ⟨m, n, cameAt_append hm hp, cameAt_append hn hq, hlt⟩

/-- A stored note takes the place of the one with its path, or comes last. -/
theorem Records.upsert (hix : Records h ix) (note : Note) :
    Records (h ++ [.stored note]) (ix.upsert note) where
  latest other := by rw [mem_upsert, latest_append_stored, hix.latest]
  kept path := by
    rw [kept_append_stored, ← hix.kept, paths_upsert]
    split
    next hin =>
      refine ⟨.inr, ?_⟩
      rintro (rfl | hmem)
      · exact contains_iff.mp hin
      · exact hmem
    next => simp [or_comm, eq_comm]
  came path := by
    rw [paths_upsert]
    split
    next =>
      intro hmem
      obtain ⟨n, hn⟩ := hix.came path hmem
      exact ⟨n, cameAt_append hn nofun⟩
    next hout =>
      intro hmem
      rcases List.mem_append.mp hmem with hmem | hmem
      · obtain ⟨n, hn⟩ := hix.came path hmem
        exact ⟨n, cameAt_append hn nofun⟩
      · obtain rfl := List.mem_singleton.mp hmem
        exact ⟨h.length, cameAt_stored fun hk => hout (contains_iff.mpr ((hix.kept _).mpr hk))⟩
  order := by
    have hold := hix.order.imp fun hpq => cameBefore_append (e := .stored note) hpq nofun nofun
    rw [paths_upsert]
    split
    next => exact hold
    next hout =>
      have hnew : ¬ Kept note.path h := fun hk => hout (contains_iff.mpr ((hix.kept _).mpr hk))
      refine List.pairwise_append.mpr ⟨hold, List.pairwise_singleton _ _, fun p hp q hq => ?_⟩
      obtain rfl := List.mem_singleton.mp hq
      obtain ⟨n, hn⟩ := hix.came p hp
      exact ⟨n, h.length, cameAt_append hn nofun, cameAt_stored hnew, lt_length_of_cameAt hn⟩

theorem Records.erase (hix : Records h ix) (path : String) :
    Records (h ++ [.dropped path]) (ix.erase path) where
  latest note := by
    rw [latest_append_dropped, ← hix.latest]
    simp [Index.erase, and_comm]
  kept p := by
    rw [kept_append_dropped, ← hix.kept, paths_erase, List.mem_filter, decide_eq_true_eq, and_comm,
      ne_comm]
  came p := by
    rw [paths_erase]
    intro hmem
    obtain ⟨hmem, hne⟩ := List.mem_filter.mp hmem
    obtain ⟨n, hn⟩ := hix.came p hmem
    exact ⟨n, cameAt_append hn fun he => of_decide_eq_true hne (Event.dropped.inj he).symm⟩
  order := by
    rw [paths_erase]
    refine (hix.order.filter _).imp_of_mem fun {p q} hp hq hpq => ?_
    have hne {r : String} (hr : r ∈ ix.paths.filter (· ≠ path)) : Event.dropped path ≠ .dropped r :=
      fun he => of_decide_eq_true (List.mem_filter.mp hr).2 (Event.dropped.inj he).symm
    exact cameBefore_append hpq (hne hp) (hne hq)

def happen (ix : Index) : Event → Index
  | .stored note => ix.upsert note
  | .dropped path => ix.erase path

theorem Records.happen (hix : Records h ix) (e : Event) : Records (h ++ [e]) (ix.happen e) := by
  cases e with
  | stored note => exact hix.upsert note
  | dropped path => exact hix.erase path

theorem Records.foldl (hix : Records h ix) (es : List Event) :
    Records (h ++ es) (es.foldl Index.happen ix) := by
  induction es generalizing h ix with
  | nil => simpa using hix
  | cons e es ih =>
    rw [List.append_cons]
    exact ih (hix.happen e)

/-- A step changes an index by what happens in it. -/
theorem step_eq (ix : Index) (s : Step) : (ix.step s).1 = s.events.foldl happen ix := by
  cases s with
  | upsert item =>
    cases hitem : item.note with
    | ok note =>
      rw [step_upsert_of_ok ix hitem, Step.events, hitem]
      rfl
    | error failure =>
      rw [step_upsert_of_error ix hitem, Step.events, hitem]
      rfl
  | _ => rfl

theorem after_eq (ix : Index) (steps : List Step) :
    ix.after steps = (steps.flatMap Step.events).foldl happen ix := by
  induction steps generalizing ix with
  | nil => rfl
  | cons s steps ih =>
    rw [List.flatMap_cons, List.foldl_append, ← step_eq]
    exact ih _

theorem foldl_upsert_eq (ix : Index) (notes : List Note) :
    notes.foldl upsert ix = (notes.map Event.stored).foldl happen ix := by
  rw [List.foldl_map]
  rfl

/-- After any steps, an index holds what its history tells. -/
theorem records_after (notes : List Note) (steps : List Step) :
    Records (history notes steps) ((notes.foldl upsert empty).after steps) := by
  rw [after_eq, foldl_upsert_eq, ← List.foldl_append]
  exact records_empty.foldl _

/-- Notes with paths of their own are added one after the other. -/
theorem notes_foldl_upsert (ix : Index) (h : (ix.paths ++ notes.map Note.path).Nodup) :
    (notes.foldl upsert ix).notes = ix.notes ++ notes := by
  induction notes generalizing ix with
  | nil => simp
  | cons note rest ih =>
    have hout : ¬ ix.contains note.path := fun hin =>
      (List.nodup_append.mp h).2.2 _ (contains_iff.mp hin) _ List.mem_cons_self rfl
    have hnotes : (ix.upsert note).notes = ix.notes ++ [note] := by
      unfold upsert
      rw [dif_neg hout]
    have hpaths : (ix.upsert note).paths = ix.paths ++ [note.path] := by
      rw [paths_upsert, if_neg hout]
    rw [List.foldl_cons, ih, hnotes, List.append_assoc, List.singleton_append]
    rw [hpaths, List.append_assoc]
    exact h

/-- The answers that a history gives to a step. -/
inductive Tells (h : List Event) : Step → Answer → Prop
  | taken {item : Supplied} {note : Note} (read : item.note = .ok note) :
      Tells h (.upsert item) (.taken note)
  | removed {path : String} {b : Bool} (kept : b ↔ Kept path h) : Tells h (.remove path) (.truth b)
  | found {path : String} {found : Option Note}
      (latest : ∀ note, found = some note ↔ note.path = path ∧ Latest note h) :
      Tells h (.get path) (.found found)
  | contained {path : String} {b : Bool} (kept : b ↔ Kept path h) :
      Tells h (.contains path) (.truth b)
  | all {notes : List Note} (latest : ∀ note, note ∈ notes ↔ Latest note h)
      (distinct : (notes.map Note.path).Nodup) (came : ∀ note ∈ notes, ∃ n, CameAt note.path n h)
      (order : (notes.map Note.path).Pairwise fun p q =>
        ∀ m n, CameAt p m h → CameAt q n h → m < n) : Tells h .all (.notes notes)
  | size {paths : List String} (distinct : paths.Nodup) (kept : ∀ path, path ∈ paths ↔ Kept path h) :
      Tells h .size (.count paths.length)

theorem Records.tells (hix : Records h ix) {s : Step} {answer : Answer}
    (hs : (ix.step s).2 = .ok answer) : Tells h s answer := by
  have contained (path : String) : ix.contains path ↔ Kept path h :=
    contains_iff.trans (hix.kept path)
  cases s with
  | upsert item =>
    cases hitem : item.note with
    | ok note =>
      rw [step_upsert_of_ok ix hitem] at hs
      cases hs
      exact .taken hitem
    | error failure =>
      rw [step_upsert_of_error ix hitem] at hs
      cases hs
  | remove path =>
    cases hs
    exact .removed (contained path)
  | get path =>
    cases hs
    exact .found fun note => get?_eq_some_iff.trans (and_congr_right' (hix.latest note))
  | contains path =>
    cases hs
    exact .contained (contained path)
  | all =>
    cases hs
    refine .all hix.latest ix.distinct (fun note hn => hix.came _ (List.mem_map_of_mem hn)) ?_
    refine hix.order.imp fun ⟨m, n, hm, hn, hlt⟩ m' n' hm' hn' => ?_
    rwa [hm'.unique hm, hn'.unique hn]
  | size =>
    cases hs
    rw [size, ← List.length_map Note.path]
    exact .size ix.distinct hix.kept

/-- Only items that are no notes are refused. -/
theorem step_eq_error_iff {s : Step} {failure : Failure} : (ix.step s).2 = .error failure ↔
    ∃ item, s = .upsert item ∧ item.note = .error failure := by
  cases s with
  | upsert item =>
    cases hitem : item.note with
    | ok note => simp [step_upsert_of_ok ix hitem, hitem]
    | error other => simp [step_upsert_of_error ix hitem, hitem]
  | _ => simp [step]

/-- A path is kept if some note is the latest one under it. -/
theorem kept_iff (h : List Event) : Kept path h ↔ ∃ note, note.path = path ∧ Latest note h := by
  have hix : Records h (h.foldl happen empty) := records_empty.foldl h
  rw [← hix.kept]
  simp only [← hix.latest, paths, List.mem_map, and_comm]

theorem answer_ofSupplied {items : List Supplied} (hnotes : Supplied.notes items = .ok notes)
    (hdistinct : (notes.map Note.path).Nodup) (e : Engine) (now : Value) (request : Request) :
    e.answer (.index (notes.foldl upsert empty)) now request = e.answer (.host items) now request := by
  have hsnapshot : (Source.index (notes.foldl upsert empty)).snapshot =
      (Source.host items).snapshot := by
    change Except.ok (notes.foldl upsert empty).notes = Supplied.notes items
    rw [notes_foldl_upsert empty hdistinct, hnotes]
    rfl
  rw [Engine.answer_eq, Engine.answer_eq]
  simp only [Engine.resultFrom, hsnapshot]

/-- An index that began with some notes answers every step by its history, in which each path has
the note that was stored last. Only items that are no notes are refused, and these change nothing.
To queries an index is the same as a host with its notes, if each of these has a path of its own. -/
theorem step_tells {items : List Supplied} (hnotes : Supplied.notes items = .ok notes) :
    ∃ ix, ofSupplied items = .ok ix ∧
      (∀ steps s answer, ((ix.after steps).step s).2 = .ok answer →
        Tells (history notes steps) s answer) ∧
      (∀ h path, Kept path h ↔ ∃ note, note.path = path ∧ Latest note h) ∧
      (∀ steps s failure, ((ix.after steps).step s).2 = .error failure ↔
        ∃ item, s = .upsert item ∧ item.note = .error failure) ∧
      (∀ v fault, (Supplied.raw v).note = .error (.note fault) ↔ Note.Malformed v fault) ∧
      (∀ steps item failure, item.note = .error failure →
        ((ix.after steps).step (.upsert item)).1 = ix.after steps) ∧
      ((notes.map Note.path).Nodup → ∀ (e : Engine) (now : Value) (request : Request),
        e.answer (.index ix) now request = e.answer (.host items) now request) := by
  have hof : ofSupplied items = .ok (notes.foldl upsert empty) := by
    unfold ofSupplied
    rw [hnotes]
    rfl
  refine ⟨_, hof, fun steps s answer => (records_after notes steps).tells, fun h _ => kept_iff h,
    fun _ _ _ => step_eq_error_iff, fun _ _ => Note.ofValue_eq_note_iff, ?_,
    answer_ofSupplied hnotes⟩
  intro steps item failure hitem
  rw [step_upsert_of_error _ hitem]

/-- Two notes in their raw form; the second has its properties under the other name. -/
def twoNotes : List Supplied :=
  [.raw (.ofFields [("path", .text "a.md")]),
    .raw (.ofFields [("path", .text "b.md"), ("props", .ofFields [("k", .text "v")])])]

/-- One note goes and comes back, which puts it last. -/
def comings : List Step :=
  [.remove "a.md", .upsert (.raw (.ofFields [])), .upsert (.ready ⟨"a.md", []⟩)]

theorem step_tells_comings :
    Supplied.notes twoNotes = .ok [⟨"a.md", []⟩, ⟨"b.md", [("k", .text "v")]⟩] ∧
    ∃ ix, ofSupplied twoNotes = .ok ix ∧
      Tells (history [⟨"a.md", []⟩, ⟨"b.md", [("k", .text "v")]⟩] comings) .all
        (.notes [⟨"b.md", [("k", .text "v")]⟩, ⟨"a.md", []⟩]) ∧
      ∀ (e : Engine) (now : Value) (request : Request),
        e.answer (.index ix) now request = e.answer (.host twoNotes) now request := by
  have hread : Supplied.notes twoNotes = .ok [⟨"a.md", []⟩, ⟨"b.md", [("k", .text "v")]⟩] := rfl
  obtain ⟨ix, hix, tells, -, -, -, -, same⟩ := step_tells hread
  refine ⟨hread, ix, hix, tells comings .all _ ?_, same (by decide)⟩
  cases Except.ok.inj (hix.symm.trans rfl)
  rfl

end Index
end NotePlot
