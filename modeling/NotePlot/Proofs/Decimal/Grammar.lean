import NotePlot.Proofs.Text.Blank
import NotePlot.Proofs.Text.Digit
import NotePlot.Decimal.Numeral
import Mathlib.Data.List.TakeWhile

/-! Numerals as they are written: a decimal numeral is read just as its parts say, and what is not
written so is not read. -/
namespace NotePlot.Numeral

open Text

variable {cs ds fs sign digits power : List Char} {c : Char} {n : Numeral} {negative : Bool} {e : Int}

/-- Digits of any script, at least one. -/
def IsDigits (cs : List Char) : Prop := cs ≠ [] ∧ ∀ c ∈ cs, isDigit c

/-- A sign or none, and whether it is that of negative numbers. -/
inductive IsSign : Bool → List Char → Prop
  | none : IsSign false []
  | plus : IsSign false ['+']
  | minus : IsSign true ['-']

/-- Digits with at most one point among or around them, and what stands on its two sides. -/
inductive ArePointed : List Char → List Char → List Char → Prop
  | whole {ds : List Char} (h : IsDigits ds) : ArePointed ds [] ds
  | point {ds fs : List Char} (h : IsDigits ds) (hf : ∀ c ∈ fs, isDigit c) :
      ArePointed ds fs (ds ++ '.' :: fs)
  | fraction {fs : List Char} (h : IsDigits fs) : ArePointed [] fs ('.' :: fs)

/-- An exponent or none, and the number that it is. -/
inductive IsExponent : Int → List Char → Prop
  | none : IsExponent 0 []
  | power {mark : Char} {negative : Bool} {sign ds : List Char} (hm : mark = 'e' ∨ mark = 'E')
      (hs : IsSign negative sign) (hd : IsDigits ds) :
      IsExponent (if negative then -(numberOf ds : Int) else numberOf ds) (mark :: (sign ++ ds))

/-- A decimal numeral, from its first character to its last, and its parts. -/
inductive Spells : List Char → Numeral → Prop
  | parts {sign digits power whole fraction : List Char} {negative : Bool} {e : Int}
      (hs : IsSign negative sign) (hd : ArePointed whole fraction digits)
      (he : IsExponent e power) :
      Spells (sign ++ digits ++ power) ⟨negative, whole, fraction, e⟩

/-- A text is a decimal numeral. -/
def IsDecimal (cs : List Char) : Prop := ∃ n, Spells cs n

/-- A text is a hexadecimal numeral. -/
inductive IsHexadecimal : List Char → Prop
  | digits {x : Char} {ds : List Char} (hx : x = 'x' ∨ x = 'X') (hne : ds ≠ [])
      (hd : ∀ d ∈ ds, isHexDigit d) : IsHexadecimal ('0' :: x :: ds)

theorem hexadecimal?_isSome_iff : (hexadecimal? cs).isSome ↔ IsHexadecimal cs := by
  unfold hexadecimal?
  constructor
  · intro h
    split at h
    · split at h
      next hd =>
        obtain ⟨hx, hne, hall⟩ := hd
        exact .digits hx (by simpa using hne) (List.all_eq_true.mp hall)
      next => cases h
    · cases h
  · rintro ⟨hx, hne, hd⟩
    have hall : (!List.isEmpty _) = true ∧ List.all _ isHexDigit = true :=
      ⟨by simpa using hne, List.all_eq_true.mpr hd⟩
    simp only [hx, hall, and_self, if_true, Option.isSome_some]

/-- A text that begins with neither sign. -/
def IsUnsigned (cs : List Char) : Prop := ∀ c ∈ cs.head?, c ≠ '+' ∧ c ≠ '-'

theorem sign_append (hs : IsSign negative sign) (hc : IsUnsigned cs) :
    Numeral.sign (sign ++ cs) = (negative, cs) := by
  cases hs with
  | none =>
    cases cs with
    | nil => rfl
    | cons c cs =>
      obtain ⟨hplus, hminus⟩ := hc c rfl
      unfold Numeral.sign
      split
      next he => exact (hminus (List.cons.inj he).1).elim
      next he => exact (hplus (List.cons.inj he).1).elim
      next => rfl
  | plus | minus => rfl

theorem exists_isSign (cs : List Char) :
    ∃ sign, IsSign (Numeral.sign cs).1 sign ∧ cs = sign ++ (Numeral.sign cs).2 := by
  unfold Numeral.sign
  split
  · exact ⟨['-'], .minus, rfl⟩
  · exact ⟨['+'], .plus, rfl⟩
  · exact ⟨[], .none, rfl⟩

theorem isUnsigned_of_isDigit (h : isDigit c) : IsUnsigned (c :: cs) := by
  rintro _ ⟨⟩
  constructor <;> rintro rfl <;> exact absurd h (by decide)

theorem isUnsigned_digits_append (hd : ∀ d ∈ ds, isDigit d) (hc : IsUnsigned cs) :
    IsUnsigned (ds ++ cs) := by
  cases ds with
  | nil => exact hc
  | cons d ds => exact isUnsigned_of_isDigit (hd d List.mem_cons_self)

theorem isUnsigned_of_digits (hd : ∀ d ∈ ds, isDigit d) : IsUnsigned ds := by
  cases ds with
  | nil => rintro c ⟨⟩
  | cons d ds => exact isUnsigned_of_isDigit (hd d List.mem_cons_self)

theorem exponent?_cons {mark : Char} (hm : mark = 'e' ∨ mark = 'E') (cs : List Char) :
    exponent? (mark :: cs) = Option.map
      (fun n : Nat => if (Numeral.sign cs).1 then -(n : Int) else n) (number? (Numeral.sign cs).2) := by
  simp only [exponent?, if_pos hm]
  cases number? (Numeral.sign cs).2 <;> rfl

theorem exponent?_cons_of_not {mark : Char} (hm : ¬ (mark = 'e' ∨ mark = 'E')) (cs : List Char) :
    exponent? (mark :: cs) = none := if_neg hm

theorem exponent?_eq_some_iff : exponent? cs = some e ↔ IsExponent e cs := by
  constructor
  · intro h
    cases cs with
    | nil =>
      cases h
      exact .none
    | cons mark rest =>
      by_cases hm : mark = 'e' ∨ mark = 'E'
      · rw [exponent?_cons hm] at h
        obtain ⟨n, hn, rfl⟩ := Option.map_eq_some_iff.mp h
        obtain ⟨hne, hall, rfl⟩ := number?_eq_some_iff.mp hn
        obtain ⟨sign, hs, hrest⟩ := exists_isSign rest
        rw [hrest, sign_append hs (isUnsigned_of_digits hall)]
        exact .power hm hs ⟨hne, hall⟩
      · rw [exponent?_cons_of_not hm] at h
        cases h
  · intro h
    cases h with
    | none => rfl
    | power hm hs hd =>
      have hn := number?_eq_some_iff.mpr ⟨hd.1, hd.2, rfl⟩
      rw [exponent?_cons hm, sign_append hs (isUnsigned_of_digits hd.2), hn]
      rfl

theorem IsExponent.head? (h : IsExponent e power) : ∀ c ∈ power.head?, c = 'e' ∨ c = 'E' := by
  intro c hc
  cases h with
  | none => cases hc
  | power hm =>
    cases hc
    exact hm

theorem IsExponent.not_isDigit (h : IsExponent e power) : ∀ c ∈ power.head?, ¬ isDigit c := by
  intro c hc
  obtain rfl | rfl := h.head? c hc <;> decide

theorem not_isDigit_point (cs : List Char) : ∀ c ∈ ('.' :: cs).head?, ¬ isDigit c := by
  rintro c ⟨⟩
  decide

theorem isUnsigned_point : IsUnsigned ('.' :: cs) := by
  rintro c ⟨⟩
  decide

theorem IsExponent.isUnsigned (h : IsExponent e power) : IsUnsigned power := by
  intro c hc
  obtain rfl | rfl := h.head? c hc <;> decide

theorem read?_whole (hs : IsSign negative sign) (hd : IsDigits ds) (he : IsExponent e power) :
    read? (sign ++ (ds ++ power)) = some ⟨negative, ds, [], e⟩ := by
  obtain ⟨htake, hdrop⟩ := takeWhile_dropWhile_of_head hd.2 he.not_isDigit
  have hform : ¬ (ds.isEmpty && [].isEmpty (α := Char)) := by simpa using hd.1
  unfold read?
  rw [sign_append hs (isUnsigned_digits_append hd.2 he.isUnsigned)]
  simp only [htake, hdrop]
  split
  next hpoint =>
    -- no exponent begins with a point
    obtain he | he := he.head? '.' rfl <;> cases he
  next =>
    rw [if_neg hform, exponent?_eq_some_iff.mpr he]
    rfl

theorem read?_point (hs : IsSign negative sign) (hd : ∀ d ∈ ds, isDigit d)
    (hf : ∀ f ∈ fs, isDigit f) (hne : ds ≠ [] ∨ fs ≠ []) (he : IsExponent e power) :
    read? (sign ++ (ds ++ '.' :: (fs ++ power))) = some ⟨negative, ds, fs, e⟩ := by
  obtain ⟨hwhole, hpoint⟩ := takeWhile_dropWhile_of_head hd (not_isDigit_point (fs ++ power))
  obtain ⟨hfraction, hpower⟩ := takeWhile_dropWhile_of_head hf he.not_isDigit
  have hform : ¬ (ds.isEmpty && fs.isEmpty) := by simpa [imp_iff_not_or] using hne
  unfold read?
  rw [sign_append hs (isUnsigned_digits_append hd isUnsigned_point)]
  simp only [hwhole, hpoint, hfraction, hpower]
  rw [if_neg hform, exponent?_eq_some_iff.mpr he]
  rfl

theorem read?_of_spells (h : Spells cs n) : read? cs = some n := by
  obtain ⟨hs, hd, he⟩ := h
  rw [List.append_assoc]
  cases hd with
  | whole h => exact read?_whole hs h he
  | point h hf =>
    rw [List.append_assoc]
    exact read?_point hs h.2 hf (.inl h.1) he
  | fraction h => exact read?_point hs (List.forall_mem_nil _) h.2 (.inr h.1) he

/-- With a point there is a digit on one of its sides. -/
theorem spells_point (hs : IsSign negative sign) (hd : ∀ d ∈ ds, isDigit d)
    (hf : ∀ f ∈ fs, isDigit f) (hne : ds ≠ [] ∨ fs ≠ []) (he : IsExponent e power) :
    Spells (sign ++ (ds ++ '.' :: (fs ++ power))) ⟨negative, ds, fs, e⟩ := by
  have hpointed : ArePointed ds fs (ds ++ '.' :: fs) := by
    by_cases hds : ds = []
    · subst hds
      exact .fraction ⟨hne.resolve_left (· rfl), hf⟩
    · exact .point ⟨hds, hd⟩ hf
  have htext : sign ++ (ds ++ '.' :: (fs ++ power)) = sign ++ (ds ++ '.' :: fs) ++ power := by
    simp only [List.append_assoc, List.cons_append]
  rw [htext]
  exact .parts hs hpointed he

theorem spells_of_read? (h : read? cs = some n) : Spells cs n := by
  obtain ⟨sign, hs, hcs⟩ := exists_isSign cs
  unfold read? at h
  generalize Numeral.sign cs = found at h hs hcs
  obtain ⟨negative, rest⟩ := found
  subst hcs
  dsimp only at h
  have hdigits : ∀ {cs : List Char}, ∀ c ∈ cs.takeWhile isDigit, isDigit c :=
    fun c hc => List.mem_takeWhile_imp hc
  split at h
  next fraction after hpoint =>
    split at h
    next => cases h
    next hform =>
      obtain ⟨e, he, rfl⟩ := Option.map_eq_some_iff.mp h
      have hne : rest.takeWhile isDigit ≠ [] ∨ after.takeWhile isDigit ≠ [] := by
        simpa [imp_iff_not_or] using hform
      have hspells := spells_point hs hdigits hdigits hne (exponent?_eq_some_iff.mp he)
      rwa [List.takeWhile_append_dropWhile, ← hpoint, List.takeWhile_append_dropWhile] at hspells
  next =>
    split at h
    next => cases h
    next hform =>
      obtain ⟨e, he, rfl⟩ := Option.map_eq_some_iff.mp h
      have hne : rest.takeWhile isDigit ≠ [] := by simpa using hform
      have hspells := Spells.parts hs (.whole ⟨hne, hdigits⟩) (exponent?_eq_some_iff.mp he)
      rwa [List.append_assoc, List.takeWhile_append_dropWhile] at hspells

theorem read?_eq_some_iff : read? cs = some n ↔ Spells cs n := ⟨spells_of_read?, read?_of_spells⟩

theorem read?_eq_none_iff : read? cs = none ↔ ¬ IsDecimal cs := by
  rw [Option.eq_none_iff_forall_ne_some, IsDecimal, not_exists]
  exact forall_congr' fun n => not_congr read?_eq_some_iff

end NotePlot.Numeral
