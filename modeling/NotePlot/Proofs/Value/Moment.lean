import NotePlot.Value.Kind
import NotePlot.Proofs.Text.Blank
import NotePlot.Proofs.Text.Digit
/-! Days in values: blanks after a text do not change the moment that it begins with, so that a text
which begins with a day has the same day wherever it is read. -/
namespace NotePlot

open Text

variable {c : Char} {cs ys rest : List Char} {n k : Nat} {s : String} {v : Value}

namespace Text

/-- Digits of no script are blanks. -/
theorem not_isBlank_of_isDigit (h : isDigit c) : ¬ isBlank c := by
  have apart : ∀ z ∈ zeros, z = 0x30 ∨ (0xA0 < z ∧ z + 10 ≤ 0x1680) ∨
      (0x1680 < z ∧ z + 10 ≤ 0x2000) ∨ 0x3000 < z := by decide
  intro hb
  have hb : c.toNat ≤ 32 ∨ c.toNat = 0x85 ∨ c.toNat = 0xA0 ∨ c.toNat = 0x1680 ∨
      (0x2000 ≤ c.toNat ∧ c.toNat ≤ 0x3000) := by
    simp only [isBlank, Bool.or_eq_true, Bool.and_eq_true, decide_eq_true_eq, beq_iff_eq] at hb
    omega
  unfold isDigit digit? at h
  split at h
  next hsmall =>
    split at h
    next hdigit =>
      simp only [Bool.and_eq_true, decide_eq_true_eq] at hdigit
      have h0 : 48 ≤ c.toNat := hdigit.1
      omega
    next _ => cases h
  next hsmall =>
    obtain ⟨z, hz⟩ := Option.isSome_iff_exists.mp (Option.isSome_map ▸ h)
    have hrange := List.find?_some hz
    have hplace := apart z (List.mem_of_find?_eq_some hz)
    simp only [Bool.and_eq_true, decide_eq_true_eq] at hrange
    omega

end Text

theorem noBlank_of_number? (h : number? cs = some k) : NoBlank cs := fun c hc =>
  not_isBlank_of_isDigit ((number?_eq_some_iff.mp h).2.1 c hc)

theorem takeNumber?_eq_some_iff : takeNumber? n cs = some (k, rest) ↔
    ∃ ds, cs = ds ++ rest ∧ ds.length = n ∧ number? ds = some k := by
  unfold takeNumber?
  constructor
  · intro h
    dsimp only at h
    split at h
    next hlen =>
      obtain ⟨k', hk, he⟩ := Option.map_eq_some_iff.mp h
      cases he
      exact ⟨cs.take n, (List.take_append_drop n cs).symm, hlen, hk⟩
    next _ => cases h
  · rintro ⟨ds, rfl, rfl, hk⟩
    simp [hk]

theorem takeChar?_eq_some_iff {c : Char} : takeChar? c cs = some rest ↔ cs = c :: rest := by
  cases cs <;> simp [takeChar?]

/-- A text begins with a day if it begins with four, two and two digits and hyphens between them. -/
theorem takeDay?_eq_some_iff {y m : Nat} : takeDay? cs = some ((y, m, k), rest) ↔
    ∃ ys ms ds, cs = (ys ++ '-' :: (ms ++ '-' :: ds)) ++ rest ∧
      (ys.length = 4 ∧ ms.length = 2 ∧ ds.length = 2) ∧
      number? ys = some y ∧ number? ms = some m ∧ number? ds = some k := by
  constructor
  · intro h
    simp only [takeDay?, Option.bind_eq_bind, Option.bind_eq_some_iff, Option.pure_def,
      Option.some.injEq, Prod.mk.injEq, Prod.exists, takeNumber?_eq_some_iff,
      takeChar?_eq_some_iff] at h
    obtain ⟨_, _, ⟨ys, rfl, hys, hy⟩, _, rfl, _, _, ⟨ms, rfl, hms, hm⟩, _, rfl, _, after,
      ⟨ds, rfl, hds, hk⟩, ⟨rfl, rfl, rfl⟩, rfl⟩ := h
    exact ⟨ys, ms, ds, by simp, ⟨hys, hms, hds⟩, hy, hm, hk⟩
  · rintro ⟨ys, ms, ds, rfl, ⟨hys, hms, hds⟩, hy, hm, hk⟩
    have hyear : takeNumber? 4 (ys ++ '-' :: (ms ++ '-' :: (ds ++ rest))) =
        some (y, '-' :: (ms ++ '-' :: (ds ++ rest))) :=
      takeNumber?_eq_some_iff.mpr ⟨ys, rfl, hys, hy⟩
    have hmonth : takeNumber? 2 (ms ++ '-' :: (ds ++ rest)) = some (m, '-' :: (ds ++ rest)) :=
      takeNumber?_eq_some_iff.mpr ⟨ms, rfl, hms, hm⟩
    have hday : takeNumber? 2 (ds ++ rest) = some (k, rest) :=
      takeNumber?_eq_some_iff.mpr ⟨ds, rfl, hds, hk⟩
    simp [takeDay?, takeChar?, hyear, hmonth, hday]

/-- A number at the beginning of a text is not changed by trimming the end. -/
theorem takeNumber?_trimEnd (n : Nat) (cs : List Char) : takeNumber? n (trimEnd cs) =
    (takeNumber? n cs).map fun (k, rest) => (k, trimEnd rest) := by
  cases h : takeNumber? n cs with
  | some found =>
    obtain ⟨k, rest⟩ := found
    obtain ⟨ds, rfl, hlen, hk⟩ := takeNumber?_eq_some_iff.mp h
    rw [trimEnd_append_of_noBlank (noBlank_of_number? hk)]
    exact takeNumber?_eq_some_iff.mpr ⟨ds, rfl, hlen, hk⟩
  | none =>
    -- what trimming leaves begins the text, so a number found there would be found in the text
    refine Option.eq_none_iff_forall_ne_some.mpr fun (k, rest) hfound => ?_
    obtain ⟨ds, htrim, hlen, hk⟩ := takeNumber?_eq_some_iff.mp hfound
    obtain ⟨blanks, hcs⟩ : trimEnd cs <+: cs := List.rdropWhile_prefix _ _
    have hsome : takeNumber? n cs = some (k, rest ++ blanks) :=
      takeNumber?_eq_some_iff.mpr ⟨ds, by rw [← hcs, htrim, List.append_assoc], hlen, hk⟩
    rw [h] at hsome
    cases hsome

theorem takeChar?_trimEnd (hc : ¬ isBlank c) (cs : List Char) :
    takeChar? c (trimEnd cs) = (takeChar? c cs).map trimEnd := by
  cases cs with
  | nil => rfl
  | cons d cs =>
    by_cases hb : AllBlank (d :: cs)
    · have hd : d ≠ c := by
        rintro rfl
        exact hc (hb d List.mem_cons_self)
      simp [trimEnd_eq_nil_iff.mpr hb, takeChar?, hd]
    · rw [trimEnd_cons_of_not_allBlank hb, takeChar?, takeChar?]
      split <;> rfl

theorem takeDay?_trimEnd (cs : List Char) : takeDay? (trimEnd cs) =
    (takeDay? cs).map fun (day, rest) => (day, trimEnd rest) := by
  have hdash : ¬ isBlank '-' := by decide
  simp only [takeDay?, takeNumber?_trimEnd, takeChar?_trimEnd hdash, Option.bind_eq_bind,
    Option.bind_map, Option.map_bind, Option.pure_def, Option.map_some, Function.comp_def]

theorem clockAfterDay_trimEnd (cs : List Char) : clockAfterDay (trimEnd cs) = clockAfterDay cs := by
  have hcolon : ¬ isBlank ':' := by decide
  cases cs with
  | nil => rfl
  | cons c cs =>
    by_cases hb : AllBlank (c :: cs)
    · obtain ⟨-, hcs⟩ := List.forall_mem_cons.mp hb
      have hnone : takeNumber? 2 cs = none := by
        have hmap := takeNumber?_trimEnd 2 cs
        rw [trimEnd_eq_nil_iff.mpr hcs] at hmap
        exact Option.map_eq_none_iff.mp hmap.symm
      rw [trimEnd_eq_nil_iff.mpr hb]
      simp [clockAfterDay, hnone]
    · rw [trimEnd_cons_of_not_allBlank hb]
      simp [clockAfterDay, takeNumber?_trimEnd, takeChar?_trimEnd hcolon, Option.bind_map,
        Option.map_bind, Function.comp_def]

theorem leadingMoment?_trimEnd (cs : List Char) :
    leadingMoment? (trimEnd cs) = leadingMoment? cs := by
  simp only [leadingMoment?, takeDay?_trimEnd, clockAfterDay_trimEnd, Option.bind_eq_bind,
    Option.bind_map, Function.comp_def]

theorem exists_takeDay?_of_beginsWithDay (h : beginsWithDay cs) :
    ∃ y m k rest, takeDay? cs = some ((y, m, k), rest) := by
  obtain ⟨⟨⟨y, m, k⟩, rest⟩, hday⟩ := Option.isSome_iff_exists.mp h
  exact ⟨y, m, k, rest, hday⟩

/-- A text that begins with a day begins without blanks. -/
theorem trimStart_of_beginsWithDay (h : beginsWithDay cs) : trimStart cs = cs := by
  obtain ⟨y, m, k, rest, hday⟩ := exists_takeDay?_of_beginsWithDay h
  obtain ⟨ys, ms, ds, rfl, ⟨hys, -⟩, hy, -⟩ := takeDay?_eq_some_iff.mp hday
  rw [List.append_assoc]
  apply trimStart_append_of_noBlank (noBlank_of_number? hy)
  rintro rfl
  cases hys

theorem leadingMoment?_trim (h : beginsWithDay cs) :
    leadingMoment? (trim cs) = leadingMoment? cs := by
  rw [trim, trimStart_of_beginsWithDay h, leadingMoment?_trimEnd]

theorem leadingMoment?_isSome_iff : (leadingMoment? cs).isSome ↔ beginsWithDay cs := by
  unfold leadingMoment? beginsWithDay
  cases takeDay? cs <;> simp

theorem length_of_beginsWithDay (h : beginsWithDay cs) : 10 ≤ cs.length := by
  obtain ⟨y, m, k, rest, hday⟩ := exists_takeDay?_of_beginsWithDay h
  obtain ⟨ys, ms, ds, rfl, ⟨hys, hms, hds⟩, -⟩ := takeDay?_eq_some_iff.mp hday
  simp only [List.length_append, List.length_cons]
  omega

theorem hyphen_not_mem_of_number? (h : number? cs = some k) : '-' ∉ cs := by
  intro hmem
  have hdigit : isDigit '-' := (number?_eq_some_iff.mp h).2.1 _ hmem
  exact absurd hdigit (by decide)

/-- What stands before the first hyphen of a text that begins with a day is the year, in four
digits. -/
theorem length_eq_of_beginsWithDay (h : beginsWithDay (ys ++ '-' :: rest)) (hys : '-' ∉ ys) :
    ys.length = 4 := by
  obtain ⟨y, m, k, after, hday⟩ := exists_takeDay?_of_beginsWithDay h
  obtain ⟨zs, ms, ds, heq, ⟨hzs, -⟩, hy, -⟩ := takeDay?_eq_some_iff.mp hday
  have hdash := hyphen_not_mem_of_number? hy
  rw [List.append_assoc] at heq
  rcases List.append_eq_append_iff.mp heq with ⟨as, rfl, has⟩ | ⟨bs, rfl, hbs⟩
  · cases as with
    | nil => simpa using hzs
    | cons c as =>
      rw [List.cons_append, List.cons.injEq] at has
      simp [← has.1] at hdash
  · cases bs with
    | nil => simpa using hzs
    | cons c bs =>
      rw [List.cons_append, List.cons_append, List.cons.injEq] at hbs
      simp [← hbs.1] at hys

/-- A text that begins with a day tells the same moment in all places where one is wanted. -/
theorem momentInText_of_beginsWithDay (h : beginsWithDay cs)
    (phrase : List Char → Outcome (Option Moment)) :
    momentInText phrase cs = .ok (leadingMoment? cs).join := by
  obtain ⟨answer, ha⟩ := Option.isSome_iff_exists.mp (leadingMoment?_isSome_iff.mpr h)
  have htrim := (leadingMoment?_trim h).trans ha
  simp [momentInText, htrim, ha]

namespace Value

/-- A date, a moment, or a text that begins with a day and is read as a moment, however phrases are
read; the date is that of the moment. -/
def TellsDay (v : Value) (d : Date) : Prop :=
  v = .scalar (.date d) ∨ (∃ m offset, v = .scalar (.moment m offset) ∧ m.date = d) ∨
    v.beginsLikeDate ∧ ∃ m, (∀ phrases, v.moment phrases = .ok (some m)) ∧ m.date = d

theorem day?_text_eq_some_iff {d : Date} :
    (text s).day? = some d ↔ (text s).beginsLikeDate ∧
      ∃ m, (∀ phrases, (text s).moment phrases = .ok (some m)) ∧ m.date = d := by
  change (leadingMoment? s.toList).join.map Moment.date = some d ↔ beginsWithDay s.toList ∧
    ∃ m, (∀ phrases : Phrases, momentInText phrases.read s.toList = .ok (some m)) ∧ m.date = d
  by_cases hb : beginsWithDay s.toList
  · simp [momentInText_of_beginsWithDay hb, hb]
  · have hnone : leadingMoment? s.toList = none :=
      Option.not_isSome_iff_eq_none.mp (mt leadingMoment?_isSome_iff.mp hb)
    simp [hnone, hb]

theorem day?_text_eq_none (h : ¬ beginsWithDay s.toList) : (text s).day? = none := by
  refine Option.eq_none_iff_forall_ne_some.mpr fun d hd => ?_
  exact h (day?_text_eq_some_iff.mp hd).1

/-- The day under which a value is compared with dates. -/
theorem day?_eq_some_iff {d : Date} : v.day? = some d ↔ v.TellsDay d := by
  have other (hn : v.dated? = none) (hb : v.beginsLikeDate = false)
      (hd : ∀ d, v ≠ .scalar (.date d)) (hm : ∀ m offset, v ≠ .scalar (.moment m offset)) :
      v.day? = some d ↔ v.TellsDay d := by
    simp [day?, TellsDay, hn, hb, hd, hm]
  cases v with
  | scalar s =>
    cases s with
    | date e => simp [day?, dated?, TellsDay, beginsLikeDate, Moment.midnight]
    | moment m offset => simp [day?, dated?, TellsDay, beginsLikeDate]
    | text t =>
      have ht := day?_text_eq_some_iff (s := t) (d := d)
      simpa [TellsDay, text] using ht
    | _ => exact other rfl rfl nofun nofun
  | _ => exact other rfl rfl nofun nofun

end Value
end NotePlot
