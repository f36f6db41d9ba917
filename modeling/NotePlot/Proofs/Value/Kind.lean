import NotePlot.Value.Kind
import NotePlot.Proofs.Value.Numeric

/-! Kinds of values: which texts are dates, and that nothing is missing but null, NaN and blank
texts. -/
namespace NotePlot

open Text Outcome

variable {v : Value} {s : String} {x : Float} {m : Moment}

namespace Kinded

def isMissing : Kinded → Bool
  | .missing => true
  | _ => false

def isNumber : Kinded → Bool
  | .number _ => true
  | _ => false

def isDate : Kinded → Bool
  | .date _ => true
  | _ => false

end Kinded

namespace Value

/-- A value with a kind of this sort; one whose kind cannot be told has none. -/
def hasKind (p : Kinded → Bool) (v : Value) : Bool :=
  match v.kinded with
  | .ok k => p k
  | .error _ => false

theorem hasKind_of_kinded {p : Kinded → Bool} {k : Kinded} (h : v.kinded = .ok k) :
    v.hasKind p = p k := by
  rw [hasKind, h]

theorem hasKind_isMissing_iff : v.hasKind Kinded.isMissing ↔ v.kinded = .ok .missing := by
  constructor
  · intro h
    unfold hasKind at h
    split at h
    next k hk =>
      cases k with
      | missing => exact hk
      | list | date | number | text => cases h
    next => cases h
  · intro h
    rw [hasKind_of_kinded h]
    rfl

/-- A text is missing if it is blank, else a date if it tells a moment after the blanks at its
beginning, and else a number or a text. -/
theorem kindOfText_cases (s : String) :
    AllBlank s.toList ∧ (leadingMoment? (trim s.toList)).join = none ∧
      kindOfText s = .ok .missing ∨
    ¬ AllBlank s.toList ∧ (∃ m, (leadingMoment? (trim s.toList)).join = some m ∧
      kindOfText s = .ok (.date m)) ∨
    ¬ AllBlank s.toList ∧ (leadingMoment? (trim s.toList)).join = none ∧
      ∀ k, kindOfText s = .ok k → k ≠ .missing ∧ ∀ m, k ≠ .date m := by
  have htrim : (strip s).toList = trim s.toList := String.toList_ofList
  have hempty : (strip s).isEmpty = true ↔ AllBlank s.toList := by
    rw [String.isEmpty_iff, ← String.toList_eq_nil_iff, htrim, trim_eq_nil_iff]
  unfold kindOfText
  dsimp only
  rw [htrim]
  split
  next hblank =>
    have hblank := hempty.mp hblank
    have hnone : (leadingMoment? (trim s.toList)).join = none := by
      rw [trim_eq_nil_iff.mpr hblank]
      rfl
    exact .inl ⟨hblank, hnone, rfl⟩
  next hsome =>
    have hsome := mt hempty.mpr hsome
    split
    next m hm => exact .inr (.inl ⟨hsome, m, hm, rfl⟩)
    next hnone =>
      -- a number is one if it is finite, and a text otherwise
      refine .inr (.inr ⟨hsome, hnone, fun k hk => ?_⟩)
      obtain ⟨n, -, hn⟩ := bind_eq_ok.mp hk
      split at hn
      · split at hn <;> cases hn <;> simp
      · cases hn
        simp

theorem kindOfText_eq_date_iff :
    kindOfText s = .ok (.date m) ↔ (leadingMoment? (trim s.toList)).join = some m := by
  rcases kindOfText_cases s with ⟨-, hnone, hk⟩ | ⟨-, m', hm, hk⟩ | ⟨-, hnone, hk⟩
  · simp [hnone, hk]
  · simp [hm, hk]
  · rw [hnone]
    exact iff_of_false (fun h => (hk _ h).2 m rfl) (fun h => by cases h)

theorem kindOfText_eq_missing_iff : kindOfText s = .ok .missing ↔ AllBlank s.toList := by
  rcases kindOfText_cases s with ⟨hblank, -, hk⟩ | ⟨hblank, m, -, hk⟩ | ⟨hblank, -, hk⟩
  · exact iff_of_true hk hblank
  · exact iff_of_false (by simp [hk]) hblank
  · exact iff_of_false (fun h => (hk _ h).1 rfl) hblank

theorem kinded_text (s : String) : (text s).kinded = kindOfText s := by
  have hs : (text s).plain = .ok s := rfl
  have hkind : (text s).kinded = ((text s).plain >>= kindOfText) := by
    unfold kinded
    rfl
  rw [hkind, hs, Outcome.ok_bind]

/-- What stands for no value: null, NaN, and a text of blanks, be it that of an object of the host.
-/
inductive SaysNothing : Value → Prop
  | null : SaysNothing .null
  | nan {x : Float} (h : x.isNaN = true) : SaysNothing (.scalar (.float x))
  | blank {s : String} (h : AllBlank s.toList) : SaysNothing (.text s)
  | foreign {o : Foreign} {s : String} (hs : o.display = some s) (h : AllBlank s.toList) :
      SaysNothing (.foreign o)

/-- If the value is a knot, a collection stands at its place. -/
def IsProper (v : Value) : Prop := ∀ k, v = .knot k → ∀ s, k.cell ≠ .scalar s

theorem kinded_of_saysNothing (h : v.SaysNothing) : v.kinded = .ok .missing := by
  cases h with
  | null => rfl
  | @nan x h =>
    have hnan : ¬ x.isNaN = false := fun hf => Bool.false_ne_true (hf.symm.trans h)
    have hnone : Number.of? x = none := dif_neg hnan
    have hnumber : (scalar (.float x)).number = .ok none := congrArg Except.ok hnone
    unfold kinded
    simp only [opened]
    rw [hnumber]
    rfl
  | @blank s h =>
    rw [kinded_text]
    exact kindOfText_eq_missing_iff.mpr h
  | @foreign o s hs h =>
    have hkind : (foreign o).kinded = (told o.display >>= kindOfText) := by
      unfold kinded
      rfl
    have htold : told (some s) = .ok s := rfl
    rw [hkind, hs, htold, ok_bind]
    exact kindOfText_eq_missing_iff.mpr h

/-- Mappings and bytes are written with something that is no blank. -/
theorem not_allBlank_quotedMap (parts : List String) : ¬ AllBlank (quotedMap parts).toList := by
  rw [quotedMap, String.append_assoc, String.toList_append]
  exact not_allBlank_append_of_noBlank (by decide) (by decide) _

theorem not_allBlank_quotedBytes (bs : List UInt8) : ¬ AllBlank (Text.quotedBytes bs).toList := by
  rw [Text.quotedBytes, String.toList_ofList]
  exact fun hb => absurd (hb 'b' List.mem_cons_self) (by decide)

theorem kindOfPlain_ne_missing (h : ∀ s, v.plain = .ok s → ¬ AllBlank s.toList) :
    (v.plain >>= kindOfText) ≠ .ok .missing := by
  intro hk
  obtain ⟨s, hs, hk⟩ := bind_eq_ok.mp hk
  exact h s hs (kindOfText_eq_missing_iff.mp hk)

theorem plain_knot_of_map {k : Knot} {es : List (Scalar × Nat)} (hk : k.cell = .map es)
    (hs : (knot k).plain = .ok s) : ∃ parts, s = quotedMap parts := by
  have hat : k.cellAt k.place = .map es := hk
  have hplain : (knot k).plain = k.quotedAt (k.cells.size + 1) [] k.place := by
    unfold plain Knot.plain
    rw [Knot.plainAt, hat]
  rw [hplain, Knot.quotedAt] at hs
  simp only [hat] at hs
  obtain ⟨parts, -, hs⟩ := bind_eq_ok.mp hs
  exact ⟨parts, (Except.ok.inj hs).symm⟩

theorem number_float_ne_none (hx : ¬ (scalar (.float x)).SaysNothing) :
    (scalar (.float x)).number ≠ .ok none := by
  intro hn
  have hnan : x.isNaN = false := eq_false_of_ne_true fun h => hx (.nan h)
  have hsome := Number.of?_of_isNaN hnan
  cases hsome.symm.trans (Except.ok.inj hn)

theorem kindOfNumber_ne_missing {r : Outcome (Option Number)} {g : Option Number → Outcome Kinded}
    (hr : r ≠ .ok none) (hg : ∀ n, g (some n) = .ok (.number n)) : (r >>= g) ≠ .ok .missing := by
  intro h
  obtain ⟨found, hfound, h⟩ := bind_eq_ok.mp h
  cases found with
  | none => exact hr hfound
  | some n => cases (hg n).symm.trans h

theorem kinded_scalar_ne_missing {s : Scalar} (h : ¬ (scalar s).SaysNothing) :
    (scalar s).kinded ≠ .ok .missing := by
  cases s with
  | null => exact (h .null).elim
  | bool b =>
    have hnumber : (scalar (.bool b)).number ≠ .ok none := fun hn => by cases hn
    exact kindOfNumber_ne_missing hnumber fun _ => rfl
  | int n => exact kindOfNumber_ne_missing floatOfInt_map_ne_none fun _ => rfl
  | float x => exact kindOfNumber_ne_missing (number_float_ne_none h) fun _ => rfl
  | text t =>
    have htext : (scalar (.text t)).kinded = kindOfText t := kinded_text t
    rw [htext]
    exact fun hk => h (.blank (kindOfText_eq_missing_iff.mp hk))
  | bytes bs =>
    refine kindOfPlain_ne_missing (v := scalar (.bytes bs)) fun s hs => ?_
    cases hs
    exact not_allBlank_quotedBytes bs
  | date d | moment m offset =>
    intro hk
    cases hk

/-- Nothing else says nothing. -/
theorem kinded_eq_missing_iff (hv : v.IsProper) : v.kinded = .ok .missing ↔ v.SaysNothing := by
  refine ⟨fun hk => ?_, kinded_of_saysNothing⟩
  by_contra h
  cases v with
  | scalar s => exact kinded_scalar_ne_missing h hk
  | list | tuple | set | arrayLike => cases hk
  | foreign o =>
    refine kindOfPlain_ne_missing (v := foreign o) (fun s hs hb => ?_) hk
    have htold : told o.display = .ok s := hs
    cases hd : o.display with
    | none =>
      rw [hd] at htold
      cases htold
    | some t =>
      rw [hd] at htold
      cases htold
      exact h (.foreign hd hb)
  | map es =>
    refine kindOfPlain_ne_missing (v := map es) (fun s hs => ?_) hk
    obtain ⟨parts, -, hs⟩ := bind_eq_ok.mp hs
    cases hs
    exact not_allBlank_quotedMap parts
  | knot k =>
    unfold kinded at hk
    rw [opened] at hk
    cases hcell : k.cell with
    | scalar s => exact hv k rfl s hcell
    | list | tuple | set =>
      rw [hcell] at hk
      cases hk
    | map es =>
      rw [hcell] at hk
      refine kindOfPlain_ne_missing (v := knot k) (fun s hs => ?_) hk
      obtain ⟨parts, rfl⟩ := plain_knot_of_map hcell hs
      exact not_allBlank_quotedMap parts

end Value
end NotePlot
