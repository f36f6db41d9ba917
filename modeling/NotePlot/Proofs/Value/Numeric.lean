import NotePlot.Proofs.Decimal.Grammar
import NotePlot.Proofs.Decimal.Nearest
import NotePlot.Proofs.Value.Spelled

/-! Numbers in texts: which texts spell one, and that whatever is spelled is a number. -/
namespace NotePlot

open Text

variable {cs ds sign : List Char} {n : Numeral} {negative : Bool} {c : Char} {i : Int}

namespace Number

theorem of?_of_isNaN {x : Float} (h : x.isNaN = false) : of? x = some ⟨x, h⟩ := dif_pos h

/-- The infinity of a sign. -/
def boundless (negative : Bool) : Number := if negative then negInfinity else infinity

end Number

namespace Numeral

/-- A text is the full name of infinity, with a sign or without one. -/
def NamesInfinity (negative : Bool) (cs : List Char) : Prop :=
  ∃ sign, IsSign negative sign ∧ cs = sign ++ "Infinity".toList

theorem IsHexadecimal.unread (h : IsHexadecimal cs) : cs ≠ [] ∧ read? cs = none := by
  obtain ⟨hx, -, -⟩ := h
  obtain rfl | rfl := hx <;> exact ⟨List.cons_ne_nil _ _, rfl⟩

theorem NamesInfinity.mem (h : NamesInfinity negative cs) : 'y' ∈ cs := by
  obtain ⟨sign, hs, rfl⟩ := h
  exact List.mem_append_right sign (by decide)

theorem IsHexadecimal.not_mem (h : IsHexadecimal cs) : 'y' ∉ cs := by
  obtain ⟨hx, -, hd⟩ := h
  intro hy
  obtain hy | hy := List.mem_cons.mp hy
  · exact absurd hy (by decide)
  · obtain rfl | hy := List.mem_cons.mp hy
    · exact absurd hx (by decide)
    · exact absurd (hd 'y' hy) (by decide)

/-- A numeral in base sixteen takes no sign. -/
theorem read?_signed_hexadecimal (hs : IsSign negative sign) (h : IsHexadecimal cs) :
    read? (sign ++ cs) = none := by
  obtain ⟨hx, -, -⟩ := h
  obtain rfl | rfl := hx <;> cases hs <;> rfl

theorem ne_nil_of_isDecimal (h : IsDecimal cs) : cs ≠ [] := by
  rintro rfl
  exact read?_eq_none_iff.mp rfl h

end Numeral

open Numeral

theorem floatOfInt_map_ne_none : (floatOfInt i).map Number.of? ≠ .ok none := by
  by_cases h : IsBeyondDoubles i
  · rw [floatOfInt_of_isBeyondDoubles h]
    intro he
    cases he
  · rw [floatOfInt_of_not h]
    intro he
    have hnone : Number.of? (Float.ofInt i) = none := Except.ok.inj he
    rw [Number.of?_of_isNaN (Rounded.isNaN_ofInt i)] at hnone
    cases hnone

theorem numberInText_of_nothing (h : trim cs = []) : numberInText cs = .ok (some .zero) := by
  unfold numberInText
  dsimp only
  rw [h]
  rfl

theorem numberInText_of_spells (h : Spells (trim cs) n) :
    numberInText cs = .ok (some ⟨n.toFloat, n.isNaN_toFloat⟩) := by
  have hne : ¬ (trim cs).isEmpty := mt List.isEmpty_iff.mp (ne_nil_of_isDecimal ⟨n, h⟩)
  unfold numberInText
  simp only [if_neg hne, read?_of_spells h, Number.of?_of_isNaN n.isNaN_toFloat]

theorem numberInText_of_isHexadecimal (h : IsHexadecimal (trim cs)) :
    ∃ i : Nat, hexadecimal? (trim cs) = some i ∧
      numberInText cs = (floatOfInt i).map Number.of? := by
  obtain ⟨hne, hread⟩ := h.unread
  have hne : ¬ (trim cs).isEmpty := mt List.isEmpty_iff.mp hne
  obtain ⟨i, hi⟩ := Option.isSome_iff_exists.mp (hexadecimal?_isSome_iff.mpr h)
  refine ⟨i, hi, ?_⟩
  unfold numberInText
  simp only [if_neg hne, hread, hi]

theorem numberInText_of_namesInfinity (h : NamesInfinity negative (trim cs)) :
    numberInText cs = .ok (some (.boundless negative)) := by
  obtain ⟨sign, hs, htext⟩ := h
  unfold numberInText
  dsimp only
  rw [htext]
  cases hs <;> rfl

/-- What is none of the forms spells no number. -/
theorem numberInText_of_none (hne : trim cs ≠ []) (hd : ¬ IsDecimal (trim cs))
    (hx : ¬ IsHexadecimal (trim cs)) (hi : ∀ negative, ¬ NamesInfinity negative (trim cs)) :
    numberInText cs = .ok none := by
  have hne : ¬ (trim cs).isEmpty := mt List.isEmpty_iff.mp hne
  have hread := read?_eq_none_iff.mpr hd
  have hhex : hexadecimal? (trim cs) = none :=
    Option.not_isSome_iff_eq_none.mp (mt hexadecimal?_isSome_iff.mp hx)
  have hname : ∀ {negative sign}, IsSign negative sign →
      String.ofList (trim cs) ≠ String.ofList (sign ++ "Infinity".toList) :=
    fun hs he => hi _ ⟨_, hs, String.ofList_injective he⟩
  have hinfinity : ¬ (String.ofList (trim cs) = "Infinity" ∨
      String.ofList (trim cs) = "+Infinity") := not_or.mpr ⟨hname .none, hname .plus⟩
  have hnegative : ¬ String.ofList (trim cs) = "-Infinity" := hname .minus
  unfold numberInText
  simp only [if_neg hne, hread, hhex, if_neg hinfinity, if_neg hnegative]

theorem numberInText_eq_none_iff : numberInText cs = .ok none ↔
    trim cs ≠ [] ∧ ¬ IsDecimal (trim cs) ∧ ¬ IsHexadecimal (trim cs) ∧
      ∀ negative, ¬ NamesInfinity negative (trim cs) := by
  refine ⟨fun h => ⟨?_, ?_, ?_, ?_⟩, ?_⟩
  · intro hnothing
    rw [numberInText_of_nothing hnothing] at h
    cases h
  · rintro ⟨n, hn⟩
    rw [numberInText_of_spells hn] at h
    cases h
  · intro hx
    obtain ⟨i, -, hi⟩ := numberInText_of_isHexadecimal hx
    exact floatOfInt_map_ne_none (hi.symm.trans h)
  · intro negative hi
    rw [numberInText_of_namesInfinity hi] at h
    cases h
  · rintro ⟨hne, hd, hx, hi⟩
    exact numberInText_of_none hne hd hx hi

/-- A text without the last letter of infinity spells no number unless one of the two readers of
numerals takes it. -/
theorem numberInText_of_unread (hne : trim cs ≠ []) (hd : read? (trim cs) = none)
    (hx : hexadecimal? (trim cs) = none) (hy : 'y' ∉ trim cs) : numberInText cs = .ok none := by
  refine numberInText_of_none hne (read?_eq_none_iff.mp hd) ?_ fun _ hi => hy hi.mem
  rw [← hexadecimal?_isSome_iff, hx]
  exact Bool.false_ne_true

theorem numberInText_of_signed_hexadecimal (hc : c = '+' ∨ c = '-') (h : IsHexadecimal ds)
    (htext : trim cs = c :: ds) : numberInText cs = .ok none := by
  have hsign : ∃ negative, IsSign negative [c] := by
    obtain rfl | rfl := hc
    · exact ⟨false, .plus⟩
    · exact ⟨true, .minus⟩
  obtain ⟨negative, hs⟩ := hsign
  have hx : hexadecimal? (c :: ds) = none := by
    obtain rfl | rfl := hc <;> rfl
  have hy : 'y' ∉ c :: ds := by
    rw [List.mem_cons, not_or]
    refine ⟨?_, h.not_mem⟩
    obtain rfl | rfl := hc <;> decide
  rw [← htext] at hx hy
  refine numberInText_of_unread ?_ ?_ hx hy
  · rw [htext]
    exact List.cons_ne_nil c ds
  · rw [htext]
    exact read?_signed_hexadecimal hs h

/-- Without the blanks around it, a text that spells a number is nothing at all, a decimal numeral,
a hexadecimal one or the name of infinity, and of these only hexadecimal numerals can be too large.
-/
theorem Value.number_text {s : String} {t : List Char} (ht : trim s.toList = t) :
    ((scalar (.text s)).number = .ok none ↔
      t ≠ [] ∧ ¬ IsDecimal t ∧ ¬ IsHexadecimal t ∧ ∀ negative, ¬ NamesInfinity negative t) ∧
    (t = [] → (scalar (.text s)).number = .ok (some .zero)) ∧
    (∀ n, Spells t n →
      ∃ m : Number, (scalar (.text s)).number = .ok (some m) ∧ m.val = n.toFloat) ∧
    (∀ negative, NamesInfinity negative t →
      (scalar (.text s)).number = .ok (some (.boundless negative))) ∧
    (t ∈ ["nan", "inf", "1_000", ".", "e5"].map String.toList →
      (scalar (.text s)).number = .ok none) ∧
    (∀ c ds, c = '+' ∨ c = '-' → IsHexadecimal ds → t = c :: ds →
      (scalar (.text s)).number = .ok none) := by
  subst ht
  change (numberInText s.toList = _ ↔ _) ∧ _
  refine ⟨numberInText_eq_none_iff, numberInText_of_nothing, ?_, ?_, ?_, ?_⟩
  · intro n hn
    exact ⟨_, numberInText_of_spells hn, rfl⟩
  · intro negative h
    exact numberInText_of_namesInfinity h
  · intro hword
    have hunread : ∀ w ∈ ["nan", "inf", "1_000", ".", "e5"].map String.toList,
        w ≠ [] ∧ read? w = none ∧ hexadecimal? w = none ∧ 'y' ∉ w := by decide
    obtain ⟨hne, hd, hx, hy⟩ := hunread _ hword
    exact numberInText_of_unread hne hd hx hy
  · intro c ds hc h htext
    exact numberInText_of_signed_hexadecimal hc h htext

theorem Value.number_text_signed :
    (∃ m : Number, (scalar (.text " -.5e1\n")).number = .ok (some m) ∧
      m.val = Numeral.toFloat ⟨true, [], ['5'], 1⟩) ∧
    (scalar (.text "+0x1F")).number = .ok none ∧
    (scalar (.text "e5")).number = .ok none ∧
    (scalar (.text "\t")).number = .ok (some .zero) := by
  have hspells : Spells "-.5e1".toList ⟨true, [], ['5'], 1⟩ := read?_eq_some_iff.mp rfl
  have hhex : IsHexadecimal "0x1F".toList := hexadecimal?_isSome_iff.mp rfl
  refine ⟨?_, ?_, ?_, ?_⟩
  · exact (number_text (s := " -.5e1\n") rfl).2.2.1 _ hspells
  · exact (number_text (s := "+0x1F") rfl).2.2.2.2.2 '+' _ (.inl rfl) hhex rfl
  · exact (number_text (s := "e5") rfl).2.2.2.2.1 (by decide)
  · exact (number_text (s := "\t") rfl).2.1 rfl

end NotePlot
