import NotePlot.Text.Basic
import Mathlib.Algebra.Group.Nat.Defs
import Mathlib.Data.List.Induction
import Mathlib.Data.List.Lex
import Mathlib.Data.Char

/-! Written numbers: reading gives a number back, and of two numbers that are written in as many
ASCII digits the smaller one is the text that comes first. -/
namespace NotePlot.Text

variable {c : Char} {cs ds xs ys : List Char} {n m width : Nat}

/-- All characters of a text are the digits of ASCII. -/
def AsciiDigits (cs : List Char) : Prop := ∀ c ∈ cs, c.isDigit

theorem toNat_of_isAsciiDigit (h : c.isDigit) : 48 ≤ c.toNat ∧ c.toNat ≤ 57 :=
  Char.isDigit_iff_toNat.mp h

theorem toLower_of_isAsciiDigit (h : c.isDigit) : c.toLower = c := by
  have hrange := toNat_of_isAsciiDigit h
  have hn : ¬ (c.val ≥ 'A'.val ∧ c.val ≤ 'Z'.val) := by
    rintro ⟨hA, -⟩
    have hA : 65 ≤ c.toNat := hA
    omega
  exact dif_neg hn

theorem digit?_of_isAsciiDigit (h : c.isDigit) : digit? c = some (c.toNat - 48) := by
  have hrange := toNat_of_isAsciiDigit h
  have hzero : '0' ≤ c := hrange.1
  have hnine : c ≤ '9' := hrange.2
  rw [digit?, if_pos (by omega)]
  simp [hzero, hnine]

/-- Among the characters of ASCII there are no other digits. -/
theorem isAsciiDigit_of_isDigit (h : isDigit c) (hc : c.toNat < 128) : c.isDigit := by
  unfold isDigit digit? at h
  rw [if_pos hc] at h
  split at h
  next hrange =>
    simp only [Bool.and_eq_true, decide_eq_true_eq] at hrange
    exact Char.isDigit_iff_toNat.mpr hrange
  next _ => cases h

theorem number?_eq_some_iff :
    number? cs = some n ↔ cs ≠ [] ∧ (∀ c ∈ cs, isDigit c) ∧ numberOf cs = n := by
  simp [number?, and_assoc]

theorem numberOf_eq_ofDigitChars (h : AsciiDigits cs) : numberOf cs = Nat.ofDigitChars 10 cs 0 := by
  have hdigits : cs.map (fun c => (digit? c).getD 0) = cs.map fun c => c.toNat - 48 :=
    List.map_congr_left fun c hc => by rw [digit?_of_isAsciiDigit (h c hc), Option.getD_some]
  rw [numberOf, hdigits, ofDigits, List.foldl_map, Nat.ofDigitChars_eq_foldl]
  rfl

theorem numberOf_cons (hc : c.isDigit) (h : AsciiDigits cs) :
    numberOf (c :: cs) = 10 ^ cs.length * (c.toNat - 48) + numberOf cs := by
  rw [numberOf_eq_ofDigitChars (List.forall_mem_cons.mpr ⟨hc, h⟩), numberOf_eq_ofDigitChars h,
    Nat.ofDigitChars_cons, Nat.ofDigitChars_eq_ofDigitChars_zero, Nat.mul_zero, Nat.zero_add]
  rfl

theorem digit?_lt (c : Char) : (digit? c).getD 0 < 10 := by
  unfold digit?
  split
  next =>
    split
    next hrange =>
      simp only [Bool.and_eq_true, decide_eq_true_eq] at hrange
      have hnine : c.toNat ≤ 57 := hrange.2
      rw [Option.getD_some]
      omega
    next => decide
  next =>
    cases hz : zeros.find? fun z => z ≤ c.toNat && c.toNat < z + 10 with
    | none => exact Nat.zero_lt_succ 9
    | some z =>
      have hrange := List.find?_some hz
      simp only [Bool.and_eq_true, decide_eq_true_eq] at hrange
      rw [Option.map_some, Option.getD_some]
      omega

/-- A run of digits, of any script, denotes a number that has no more digits. -/
theorem numberOf_lt (cs : List Char) : numberOf cs < 10 ^ cs.length := by
  induction cs using List.reverseRecOn with
  | nil => decide
  | append_singleton cs c ih =>
    have hdigit := digit?_lt c
    have hlast : numberOf (cs ++ [c]) = 10 * numberOf cs + (digit? c).getD 0 := by
      rw [numberOf, List.map_append, List.map_singleton, ofDigits_append, numberOf]
    rw [hlast, List.length_append, List.length_singleton, Nat.pow_succ]
    omega

/-- A text is made of so many digits, of any script. -/
def IsNumeral (width : Nat) (cs : List Char) : Prop := cs.length = width ∧ cs.all isDigit

instance (width : Nat) (cs : List Char) : Decidable (IsNumeral width cs) :=
  inferInstanceAs (Decidable (_ ∧ _))

theorem number?_of_isNumeral (h : IsNumeral width cs) (hw : 0 < width) :
    number? cs = some (numberOf cs) := by
  refine number?_eq_some_iff.mpr ⟨?_, List.all_eq_true.mp h.2, rfl⟩
  rintro rfl
  exact absurd h.1 (Nat.ne_of_lt hw)

theorem isNumeral_of_number? (h : number? cs = some n) (hl : cs.length = width) :
    IsNumeral width cs ∧ numberOf cs = n := by
  obtain ⟨-, hall, hn⟩ := number?_eq_some_iff.mp h
  exact ⟨⟨hl, List.all_eq_true.mpr hall⟩, hn⟩

/-- Of texts whose first parts are equally long, the one with the lesser first part comes first. -/
theorem append_lt_append_iff (h : xs.length = ys.length) :
    xs ++ cs < ys ++ ds ↔ xs < ys ∨ xs = ys ∧ cs < ds := by
  induction xs generalizing ys with
  | nil =>
    obtain rfl := List.length_eq_zero_iff.mp h.symm
    simp
  | cons x xs ih =>
    cases ys with
    | nil => cases h
    | cons y ys =>
      have hrest : xs ++ cs < ys ++ ds ↔ xs < ys ∨ xs = ys ∧ cs < ds := ih (Nat.succ.inj h)
      simp only [List.cons_append, List.cons_lt_cons_iff, hrest, List.cons.injEq]
      tauto

/-- Digits in equal number compare as texts like the numbers that they denote. -/
theorem lt_iff_numberOf_lt (hc : AsciiDigits cs) (hd : AsciiDigits ds)
    (hl : cs.length = ds.length) : cs < ds ↔ numberOf cs < numberOf ds := by
  induction cs generalizing ds with
  | nil =>
    obtain rfl := List.length_eq_zero_iff.mp hl.symm
    simp
  | cons c cs ih =>
    cases ds with
    | nil => cases hl
    | cons d ds =>
      have hl : cs.length = ds.length := Nat.succ.inj hl
      obtain ⟨hc, hcs⟩ := List.forall_mem_cons.mp hc
      obtain ⟨hd, hds⟩ := List.forall_mem_cons.mp hd
      have hcrange := toNat_of_isAsciiDigit hc
      have hdrange := toNat_of_isAsciiDigit hd
      have hclt := numberOf_lt cs
      have hdlt := numberOf_lt ds
      rw [List.cons_lt_cons_iff, ih hcs hds hl, numberOf_cons hc hcs, numberOf_cons hd hds, hl]
      rw [hl] at hclt
      -- the first digits decide, unless they are equal
      obtain hlt | rfl | hgt := lt_trichotomy c d
      · have hnat : c.toNat < d.toNat := hlt
        have hmul : 10 ^ ds.length * (c.toNat - 48 + 1) ≤ 10 ^ ds.length * (d.toNat - 48) :=
          Nat.mul_le_mul_left _ (by omega)
        rw [Nat.mul_succ] at hmul
        exact iff_of_true (.inl hlt) (by omega)
      · simp
      · have hnat : d.toNat < c.toNat := hgt
        have hmul : 10 ^ ds.length * (d.toNat - 48 + 1) ≤ 10 ^ ds.length * (c.toNat - 48) :=
          Nat.mul_le_mul_left _ (by omega)
        rw [Nat.mul_succ] at hmul
        refine iff_of_false ?_ (by omega)
        rintro (hlt | ⟨rfl, -⟩)
        · exact lt_asymm hlt hgt
        · exact lt_irrefl _ hgt

theorem eq_of_numberOf_eq (hc : AsciiDigits cs) (hd : AsciiDigits ds)
    (hl : cs.length = ds.length) (h : numberOf cs = numberOf ds) : cs = ds := by
  obtain hlt | he | hgt := lt_trichotomy cs ds
  · exact absurd ((lt_iff_numberOf_lt hc hd hl).mp hlt) (by omega)
  · exact he
  · exact absurd ((lt_iff_numberOf_lt hd hc hl.symm).mp hgt) (by omega)

theorem asciiDigits_padded (width n : Nat) : AsciiDigits (padded width n) := by
  intro c hc
  obtain hc | hc := List.mem_append.mp hc
  · rw [List.eq_of_mem_replicate hc]
    rfl
  · exact Nat.isDigit_of_mem_toDigits (by decide) (by decide) hc

@[simp] theorem numberOf_padded (width n : Nat) : numberOf (padded width n) = n := by
  rw [numberOf_eq_ofDigitChars (asciiDigits_padded width n), padded, Nat.ofDigitChars_append,
    Nat.ofDigitChars_replicate_zero, Nat.mul_zero, Nat.ofDigitChars_ten_toDigits]

theorem isDigit_of_asciiDigits (h : AsciiDigits cs) (hc : c ∈ cs) : isDigit c := by
  rw [isDigit, digit?_of_isAsciiDigit (h c hc)]
  rfl

/-- A written number is read back, whatever its width. -/
@[simp] theorem number?_padded (width n : Nat) : number? (padded width n) = some n := by
  refine number?_eq_some_iff.mpr ⟨?_, ?_, numberOf_padded width n⟩
  · exact List.append_ne_nil_of_right_ne_nil _ Nat.toDigits_ne_nil
  · exact fun c hc => isDigit_of_asciiDigits (asciiDigits_padded width n) hc

theorem padded_inj : padded width n = padded width m ↔ n = m := by
  refine ⟨fun h => ?_, congrArg _⟩
  rw [← numberOf_padded width n, h, numberOf_padded]

theorem toList_toString (n : Nat) : (toString n).toList = padded 1 n := by
  have hpos : 0 < (Nat.toDigits 10 n).length := Nat.length_toDigits_pos
  have hwidth : 1 - (Nat.toDigits 10 n).length = 0 := by omega
  rw [Nat.toString_eq_repr, Nat.toList_repr, padded, hwidth]
  rfl

theorem toString_inj : toString n = toString m ↔ n = m := by
  rw [← String.toList_inj, toList_toString, toList_toString, padded_inj]

theorem length_padded (hw : 0 < width) (hn : n < 10 ^ width) : (padded width n).length = width := by
  have hle := (Nat.length_toDigits_le_iff (b := 10) (by decide) hw).mpr hn
  simp only [padded, List.length_append, List.length_replicate]
  omega

theorem length_padded_one_le (width n : Nat) (hw : 0 < width) (hn : n < 10 ^ width) :
    (padded 1 n).length ≤ width := by
  have hle := (Nat.length_toDigits_le_iff (b := 10) (by decide) hw).mpr hn
  simp only [padded, List.length_append, List.length_replicate]
  omega

theorem padded_lt_iff (hw : 0 < width) (hn : n < 10 ^ width) (hm : m < 10 ^ width) :
    padded width n < padded width m ↔ n < m := by
  have hl : (padded width n).length = (padded width m).length :=
    (length_padded hw hn).trans (length_padded hw hm).symm
  rw [lt_iff_numberOf_lt (asciiDigits_padded _ _) (asciiDigits_padded _ _) hl, numberOf_padded,
    numberOf_padded]

theorem isNumeral_padded (hw : 0 < width) (hn : n < 10 ^ width) :
    IsNumeral width (padded width n) :=
  (isNumeral_of_number? (number?_padded width n) (length_padded hw hn)).1

/-- A number of more digits than asked for is written without padding. -/
theorem padded_eq_of_le (h : 10 ^ (width - 1) ≤ n) (hw : 1 < width) :
    padded width n = padded 1 n := by
  have hlong : ¬ (Nat.toDigits 10 n).length ≤ width - 1 := fun hle =>
    absurd ((Nat.length_toDigits_le_iff (b := 10) (by decide) (by omega)).mp hle) (by omega)
  have hwidth : width - (Nat.toDigits 10 n).length = 0 := by omega
  have hone : 1 - (Nat.toDigits 10 n).length = 0 := by omega
  simp only [padded, hwidth, hone]

/-- A number in characters of ASCII is what it is written as in that width. -/
theorem eq_padded_of_number? (h : number? cs = some n) (hascii : ∀ c ∈ cs, c.toNat < 128) :
    cs = padded cs.length n := by
  obtain ⟨hne, hall, rfl⟩ := number?_eq_some_iff.mp h
  have hdigits : AsciiDigits cs := fun c hc => isAsciiDigit_of_isDigit (hall c hc) (hascii c hc)
  have hlength : (padded cs.length (numberOf cs)).length = cs.length :=
    length_padded (List.length_pos_iff.mpr hne) (numberOf_lt cs)
  exact eq_of_numberOf_eq hdigits (asciiDigits_padded _ _) hlength.symm (numberOf_padded _ _).symm

end NotePlot.Text
