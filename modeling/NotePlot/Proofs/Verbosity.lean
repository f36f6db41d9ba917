import NotePlot.Verbosity
import Mathlib.Data.List.Forall2
import Mathlib.Data.List.Infix

/-! Verbosity: of the requests since the handlers were taken away the first one sets all levels, and
the others change nothing. -/
namespace NotePlot

namespace LevelRequest

variable {c d : Char} {cs ds : List Char} {s name : String} {n : Int} {request : LevelRequest}

/-- The characters that stand for a capital letter in a name: the letter itself, its small form, and
for two letters a small form beyond ASCII. -/
inductive IsFormOf (d : Char) : Char → Prop
  | capital : IsFormOf d d
  | small : IsFormOf d d.toLower
  | dotless (h : d = 'I') : IsFormOf d 'ı'
  | long (h : d = 'S') : IsFormOf d 'ſ'

/-- A text is a name in capital letters, written in letters of either case. -/
def Spells (s name : String) : Prop := List.Forall₂ IsFormOf name.toList s.toList

/-- The level that a request is for. A request without an argument is one for the usual level. -/
inductive AsksFor : LevelRequest → Int → Prop
  | number (n : Int) : AsksFor (number n) n
  | name {s name : String} {n : Int} (h : (name, n) ∈ names) (hs : Spells s name) :
      AsksFor (LevelRequest.name s) n
  | unknown {s : String} (h : ∀ entry ∈ names, ¬ Spells s entry.1) :
      AsksFor (LevelRequest.name s) usual

theorem toNat_toUpper (c : Char) :
    c.toUpper.toNat = if 97 ≤ c.toNat ∧ c.toNat ≤ 122 then c.toNat - 32 else c.toNat := by
  have hiff : (c.val ≥ 'a'.val ∧ c.val ≤ 'z'.val) ↔ 97 ≤ c.toNat ∧ c.toNat ≤ 122 := Iff.rfl
  unfold Char.toUpper
  split
  next h =>
    rw [if_pos (hiff.mp h)]
    obtain ⟨hlow, hhigh⟩ := hiff.mp h
    change (c.val + ('A'.val - 'a'.val)).toNat = _
    rw [UInt32.toNat_add]
    change (c.toNat + 4294967264) % 4294967296 = _
    omega
  next h => rw [if_neg (fun hr => h (hiff.mpr hr))]

theorem toNat_toLower (c : Char) :
    c.toLower.toNat = if 65 ≤ c.toNat ∧ c.toNat ≤ 90 then c.toNat + 32 else c.toNat := by
  have hiff : (c.val ≥ 'A'.val ∧ c.val ≤ 'Z'.val) ↔ 65 ≤ c.toNat ∧ c.toNat ≤ 90 := Iff.rfl
  unfold Char.toLower
  split
  next h =>
    rw [if_pos (hiff.mp h)]
    obtain ⟨hlow, hhigh⟩ := hiff.mp h
    change (c.val + ('a'.val - 'A'.val)).toNat = _
    rw [UInt32.toNat_add]
    change (c.toNat + 32) % 4294967296 = _
    omega
  next h => rw [if_neg (fun hr => h (hiff.mpr hr))]

theorem isUpper_iff : d.isUpper ↔ 65 ≤ d.toNat ∧ d.toNat ≤ 90 := by
  change decide (d.val ≥ 'A'.val ∧ d.val ≤ 'Z'.val) = true ↔ _
  rw [decide_eq_true_eq]
  exact Iff.rfl

theorem capital_eq_iff (hd : d.isUpper) : capital c = d ↔ IsFormOf d c := by
  obtain ⟨hlow, hhigh⟩ := isUpper_iff.mp hd
  have hupper := toNat_toUpper c
  constructor
  · intro h
    unfold capital at h
    split at h
    next hc =>
      obtain rfl : c = 'ı' := Char.toNat_inj.mp hc
      exact .dotless h.symm
    next =>
      split at h
      next hc =>
        obtain rfl : c = 'ſ' := Char.toNat_inj.mp hc
        exact .long h.symm
      next =>
        rw [h] at hupper
        split at hupper
        next hc =>
          have hsmall : c = d.toLower := by
            refine Char.toNat_inj.mp ?_
            rw [toNat_toLower, if_pos ⟨hlow, hhigh⟩]
            omega
          rw [hsmall]
          exact .small
        next =>
          rw [Char.toNat_inj.mp hupper]
          exact .capital
  · intro h
    cases h with
    | capital =>
      rw [capital, if_neg (by omega), if_neg (by omega)]
      refine Char.toNat_inj.mp ?_
      rw [toNat_toUpper, if_neg (by omega)]
    | small =>
      have hsmall : d.toLower.toNat = d.toNat + 32 := by rw [toNat_toLower, if_pos ⟨hlow, hhigh⟩]
      rw [capital, if_neg (by omega), if_neg (by omega)]
      refine Char.toNat_inj.mp ?_
      rw [toNat_toUpper, if_pos (by omega)]
      omega
    | dotless h => exact h.symm
    | long h => exact h.symm

/-- The names of levels are in capital letters. -/
theorem isUpper_of_mem_names {entry : String × Int} (h : entry ∈ names) (hd : d ∈ entry.1.toList) :
    d.isUpper := by
  have hall : names.all fun entry => entry.1.toList.all Char.isUpper := by decide
  exact List.all_eq_true.mp (List.all_eq_true.mp hall entry h) d hd

theorem map_capital_eq_iff (h : ∀ d ∈ ds, d.isUpper) :
    cs.map capital = ds ↔ List.Forall₂ IsFormOf ds cs := by
  induction ds generalizing cs with
  | nil => simp
  | cons d ds ih =>
    obtain ⟨hd, hds⟩ := List.forall_mem_cons.mp h
    cases cs with
    | nil => simp
    | cons c cs =>
      rw [List.map_cons, List.cons.injEq, capital_eq_iff hd, ih hds, List.forall₂_cons]

/-- A name spells the entry of the table under which it is looked up. -/
theorem spells_iff {entry : String × Int} (h : entry ∈ names) :
    Spells s entry.1 ↔ String.ofList (s.toList.map capital) = entry.1 := by
  rw [Spells, ← map_capital_eq_iff fun d hd => isUpper_of_mem_names h hd, ← String.toList_inj,
    String.toList_ofList]

/-- In a table without two entries of one name, a name is found just with its own level. -/
theorem lookup_eq_some_iff_of_nodup {entries : List (String × Int)}
    (h : (entries.map Prod.fst).Nodup) : entries.lookup name = some n ↔ (name, n) ∈ entries := by
  induction entries with
  | nil => simp
  | cons entry rest ih =>
    obtain ⟨hnot, hrest⟩ := List.nodup_cons.mp h
    rw [List.mem_cons]
    by_cases hname : name = entry.1
    · have habsent : (name, n) ∉ rest := fun hm => hnot (hname ▸ List.mem_map_of_mem hm)
      rw [or_iff_left habsent, Prod.ext_iff, and_iff_right hname, hname, List.lookup_cons_self,
        Option.some.injEq, eq_comm]
    · have hapart : (name, n) ≠ entry := fun he => hname (congrArg Prod.fst he)
      rw [or_iff_right hapart, ← ih hrest, List.lookup_cons, beq_false_of_ne hname]

theorem lookup_names_eq_some_iff : names.lookup name = some n ↔ (name, n) ∈ names :=
  lookup_eq_some_iff_of_nodup (by decide)

/-- Every request asks for one level, and that is the one it is taken for. -/
theorem asksFor_iff : request.AsksFor n ↔ request.level = n := by
  cases request with
  | number m =>
    constructor
    · rintro ⟨⟩
      rfl
    · rintro rfl
      exact .number m
  | name s =>
    change _ ↔ (names.lookup (String.ofList (s.toList.map capital))).getD usual = n
    cases hl : names.lookup (String.ofList (s.toList.map capital)) with
    | some found =>
      have hmem := lookup_names_eq_some_iff.mp hl
      have hs : Spells s (String.ofList (s.toList.map capital)) := (spells_iff hmem).mpr rfl
      constructor
      · intro h
        cases h with
        | name hother hspells =>
          rw [(spells_iff hother).mp hspells, lookup_names_eq_some_iff.mpr hother] at hl
          exact (Option.some.inj hl).symm
        | unknown hnone => exact (hnone _ hmem hs).elim
      · rintro rfl
        exact .name hmem hs
    | none =>
      have hnone : ∀ entry ∈ names, ¬ Spells s entry.1 := by
        intro entry hentry hs
        have hfound := lookup_names_eq_some_iff.mpr hentry
        rw [← (spells_iff hentry).mp hs, hl] at hfound
        cases hfound
      constructor
      · intro h
        cases h with
        | name hother hspells => exact (hnone _ hother hspells).elim
        | unknown => rfl
      · rintro rfl
        exact .unknown hnone

end LevelRequest

namespace Verbosity

variable {v : Verbosity} {steps : List VerbosityStep} {requests : List LevelRequest}
  {request : LevelRequest}

/-- What holds after some steps. -/
def after (v : Verbosity) (steps : List VerbosityStep) : Verbosity := steps.foldl step v

/-- The requests that came after the last reset, or all of them if there was none. -/
def AreSince (steps : List VerbosityStep) (requests : List LevelRequest) : Prop :=
  ∃ before, steps = before ++ requests.map .configure ∧
    (before = [] ∨ before.getLast? = some .reset)

/-- All levels are this one. -/
structure IsAt (v : Verbosity) (n : Int) : Prop where
  root : v.root = n
  engine : v.engine = n
  analysis : v.analysis = n

/-- What these requests come to when they are made of a root without handlers: the first brings the
handler and sets all levels. -/
structure Obeys (v : Verbosity) (requests : List LevelRequest) : Prop where
  handlers : v.handlers = min requests.length 1
  levels : ∀ first ∈ requests.head?, v.IsAt first.level

theorem obeys_nil (h : v.handlers = 0) : v.Obeys [] := ⟨h, by simp⟩

theorem configure_of_handlers (h : v.handlers ≠ 0) : v.configure request = v := if_pos h

theorem Obeys.configure (h : v.Obeys requests) (request : LevelRequest) :
    (v.configure request).Obeys (requests ++ [request]) := by
  cases requests with
  | nil =>
    have hnone : ¬ v.handlers ≠ 0 := not_not_intro h.handlers
    rw [Verbosity.configure, if_neg hnone]
    refine ⟨rfl, fun first hfirst => ?_⟩
    obtain rfl : request = first := Option.some.inj hfirst
    exact ⟨rfl, rfl, rfl⟩
  | cons first later =>
    have hone : v.handlers = 1 := by simpa using h.handlers
    rw [configure_of_handlers (by omega)]
    exact ⟨by simp [hone], h.levels⟩

theorem areSince_nil : AreSince [] requests ↔ requests = [] := by
  constructor
  · rintro ⟨before, h, -⟩
    simpa using (List.append_eq_nil_iff.mp h.symm).2
  · rintro rfl
    exact ⟨[], rfl, .inl rfl⟩

theorem areSince_configure : AreSince (steps ++ [.configure request]) requests ↔
    ∃ earlier, requests = earlier ++ [request] ∧ AreSince steps earlier := by
  constructor
  · rintro ⟨before, h, hbefore⟩
    rcases List.eq_nil_or_concat' requests with rfl | ⟨earlier, last, rfl⟩
    · rw [List.map_nil, List.append_nil] at h
      subst h
      simp at hbefore
    · rw [List.map_append, ← List.append_assoc] at h
      obtain ⟨hsteps, hlast⟩ := List.append_inj' h rfl
      cases hlast
      exact ⟨earlier, rfl, before, hsteps, hbefore⟩
  · rintro ⟨earlier, rfl, before, rfl, hbefore⟩
    exact ⟨before, by simp, hbefore⟩

theorem areSince_reset : AreSince (steps ++ [.reset]) requests ↔ requests = [] := by
  constructor
  · rintro ⟨before, h, -⟩
    rcases List.eq_nil_or_concat' requests with rfl | ⟨earlier, last, rfl⟩
    · rfl
    · rw [List.map_append, ← List.append_assoc] at h
      obtain ⟨-, hlast⟩ := List.append_inj' h rfl
      cases hlast
  · rintro rfl
    exact ⟨steps ++ [.reset], by simp, .inr (by simp)⟩

theorem after_append (v : Verbosity) (steps : List VerbosityStep) (s : VerbosityStep) :
    v.after (steps ++ [s]) = (v.after steps).step s := by
  rw [after, List.foldl_append]
  rfl

/-- A trace shows what holds after each beginning of the steps but the empty one. -/
theorem trace_eq (v : Verbosity) (steps : List VerbosityStep) :
    v.trace steps = steps.inits.tail.map v.after := by
  induction steps generalizing v with
  | nil => rfl
  | cons s rest ih =>
    have hinits : rest.inits = [] :: rest.inits.tail := by cases rest <;> rfl
    have hafter : v.after ∘ (s :: ·) = (v.step s).after := rfl
    rw [trace, ih, List.inits_cons, List.tail_cons, List.map_map, hafter]
    conv_rhs => rw [hinits]
    rfl

/-- At every time there are certain requests since the last reset, and what holds obeys these. -/
theorem exists_obeys (h : v.handlers = 0) (steps : List VerbosityStep) :
    ∃ requests, (∀ other, AreSince steps other ↔ other = requests) ∧
      (v.after steps).Obeys requests := by
  induction steps using List.reverseRecOn with
  | nil => exact ⟨[], fun _ => areSince_nil, obeys_nil h⟩
  | append_singleton steps s ih =>
    obtain ⟨requests, hsince, hobeys⟩ := ih
    rw [after_append]
    cases s with
    | configure request =>
      refine ⟨requests ++ [request], fun other => ?_, hobeys.configure request⟩
      simp [areSince_configure, hsince]
    | reset => exact ⟨[], fun _ => areSince_reset, obeys_nil rfl⟩

/-- From a root without handlers on it never has more than one. It has one while a request has been
made since the last reset, and then all levels are what the first such request asks for. As long as
it has one requests change nothing, and a reset takes it away and changes no level. -/
theorem after_obeys (h : v.handlers = 0) (steps : List VerbosityStep) :
    v.trace steps = steps.inits.tail.map v.after ∧ (v.after steps).handlers ≤ 1 ∧
    (∃ requests, (∀ other, AreSince steps other ↔ other = requests) ∧
      ((v.after steps).handlers = 1 ↔ requests ≠ []) ∧
      ∀ first ∈ requests.head?, ∃ n, (∀ m, first.AsksFor m ↔ m = n) ∧ (v.after steps).IsAt n) ∧
    (∀ request, (v.after steps).handlers = 1 →
      v.after (steps ++ [.configure request]) = v.after steps) ∧
    v.after (steps ++ [.reset]) = { v.after steps with handlers := 0 } := by
  obtain ⟨requests, hsince, hobeys⟩ := exists_obeys h steps
  have hhandlers := hobeys.handlers
  refine ⟨trace_eq v steps, by omega, ⟨requests, hsince, ?_, fun first hfirst => ?_⟩, ?_, ?_⟩
  · rw [hhandlers, ← List.length_pos_iff]
    omega
  · refine ⟨first.level, fun m => ?_, hobeys.levels first hfirst⟩
    rw [LevelRequest.asksFor_iff, eq_comm]
  · intro request hone
    rw [after_append]
    exact configure_of_handlers (by omega)
  · rw [after_append]
    rfl

/-- A level that is asked for in letters of either case, and a request after it that comes too late.
-/
theorem after_obeys_debug : start.handlers = 0 ∧
    AreSince [.configure (.name "Debug"), .configure (.number 5)] [.name "Debug", .number 5] ∧
    (LevelRequest.name "Debug").AsksFor 10 ∧
    (start.after [.configure (.name "Debug"), .configure (.number 5)]).IsAt 10 := by
  have hsince : AreSince [.configure (.name "Debug"), .configure (.number 5)]
      [.name "Debug", .number 5] := ⟨[], rfl, .inl rfl⟩
  have hasks : (LevelRequest.name "Debug").AsksFor 10 :=
    LevelRequest.asksFor_iff.mpr (by decide +kernel)
  obtain ⟨-, -, ⟨requests, honly, -, hlevels⟩, -⟩ :=
    after_obeys (v := start) rfl [.configure (.name "Debug"), .configure (.number 5)]
  obtain rfl := (honly _).mp hsince
  obtain ⟨n, hn, hat⟩ := hlevels _ rfl
  obtain rfl := (hn 10).mp hasks
  exact ⟨rfl, hsince, hasks, hat⟩

end Verbosity
end NotePlot
