import NotePlot.Proofs.Clause.Written
import NotePlot.Proofs.Failure.Query
/-! Which texts are clauses, and what is read from them. Two grammars say what a range and what a
comparison look like; a clause that neither of them allows is refused, and no other is. -/
namespace NotePlot

open Text Outcome Clause

variable {c : Char} {cs left right rest word w field lower upper gap : List Char} {op : Operator}
  {now : Reference} {isDateField : String → Bool} {clause : String} {fault : ClauseFault}
  {k : Condition} {dateField : Bool} {token : String} {x : Operand}

namespace Clause

/-- A text begins with a comparison sign, and with none that is longer. -/
structure BeginsWith (cs : List Char) (op : Operator) (rest : List Char) : Prop where
  isSign : op ∈ Operator.signs
  text : cs = op.symbol.toList ++ rest
  longest : ∀ other ∈ Operator.signs, other.symbol.toList <+: cs →
    other.symbol.length ≤ op.symbol.length

/-- The signs of a text from left to right, the text before the first, and after each the text up to
the next. -/
inductive Scan : List Char → List Char → List (Operator × List Char) → Prop
  | nil : Scan [] [] []
  | sign {cs op rest part parts} (h : BeginsWith cs op rest) (later : Scan rest part parts) :
      Scan cs [] ((op, part) :: parts)
  | other {c cs part parts} (h : ∀ op ∈ Operator.signs, ¬ op.symbol.toList <+: c :: cs)
      (later : Scan cs part parts) : Scan (c :: cs) (c :: part) parts

/-- A text with exactly one comparison sign, and something other than blanks before it. -/
def IsComparison (cs : List Char) : Prop :=
  ∃ left op right, Scan cs left [(op, right)] ∧ ¬ AllBlank left

theorem beginsWith_of_sign? (h : sign? cs = some (op, rest)) : BeginsWith cs op rest := by
  unfold sign? at h
  split at h <;> cases h
  case h_1 | h_2 | h_3 | h_4 =>
    refine ⟨by simp [Operator.signs], rfl, fun other ho _ => ?_⟩
    simp only [Operator.signs, List.mem_cons, List.not_mem_nil, or_false] at ho
    rcases ho with rfl | rfl | rfl | rfl | rfl | rfl <;> decide
  case h_5 hne | h_6 hne =>
    refine ⟨by simp [Operator.signs], rfl, fun other ho hp => ?_⟩
    simp only [Operator.signs, List.mem_cons, List.not_mem_nil, or_false] at ho
    obtain ⟨tail, htail⟩ := hp
    rcases ho with rfl | rfl | rfl | rfl | rfl | rfl <;>
      simp [Operator.symbol] at htail ⊢
    exact (hne _ htail.symm).elim

/-- The reader takes the sign that a text begins with. -/
theorem sign?_eq_some_iff : sign? cs = some (op, rest) ↔ BeginsWith cs op rest := by
  refine ⟨beginsWith_of_sign?, ?_⟩
  rintro ⟨hop, rfl, hl⟩
  -- an equality sign that follows would make the sign a longer one
  have short (longer : Operator) (hm : longer ∈ Operator.signs)
      (hs : longer.symbol.toList = op.symbol.toList ++ ['='])
      (hn : op.symbol.length < longer.symbol.length) : rest.head? ≠ some '=' := by
    intro hr
    obtain ⟨tail, rfl⟩ := List.head?_eq_some_iff.mp hr
    have hp : longer.symbol.toList <+: op.symbol.toList ++ '=' :: tail :=
      ⟨tail, by rw [hs, List.append_assoc, List.singleton_append]⟩
    exact absurd (hl longer hm hp) (Nat.not_le_of_lt hn)
  have hcases := hop
  simp only [Operator.signs, List.mem_cons, List.not_mem_nil, or_false] at hcases
  rcases hcases with rfl | rfl | rfl | rfl | rfl | rfl
  · rfl
  · rfl
  · exact sign?_symbol hop (short .ge (by decide) (by decide) (by decide))
  · rfl
  · exact sign?_symbol hop (short .le (by decide) (by decide) (by decide))
  · rfl

theorem sign?_eq_none_iff_of_signs :
    sign? cs = none ↔ ∀ op ∈ Operator.signs, ¬ op.symbol.toList <+: cs := by
  rw [sign?_eq_none_iff]
  have mark : ∀ op ∈ Operator.signs, ∃ mark ∈ marks, mark <+: op.symbol.toList := by decide
  have sign : ∀ mark ∈ marks, ∃ op ∈ Operator.signs, op.symbol.toList = mark := by decide
  constructor
  · intro h op hop hp
    obtain ⟨m, hm, hmp⟩ := mark op hop
    exact h m hm (hmp.trans hp)
  · intro h m hm hp
    obtain ⟨op, hop, rfl⟩ := sign m hm
    exact h op hop hp

theorem signFree_of_scan (h : Scan cs left []) : left = cs ∧ SignFree cs := by
  generalize hparts : ([] : List (Operator × List Char)) = parts at h
  induction h with
  | nil => exact ⟨rfl, signFree_nil⟩
  | sign => cases hparts
  | other hn _ ih =>
    obtain ⟨rfl, hfree⟩ := ih hparts
    exact ⟨rfl, signFree_cons.mpr ⟨sign?_eq_none_iff_of_signs.mpr hn, hfree⟩⟩

theorem scan_of_signFree (h : SignFree cs) : Scan cs cs [] := by
  induction cs with
  | nil => exact .nil
  | cons c cs ih =>
    obtain ⟨hn, hfree⟩ := signFree_cons.mp h
    exact .other (sign?_eq_none_iff_of_signs.mp hn) (ih hfree)

theorem scan_of_splitAtSign? {part : List Char} {parts : List (Operator × List Char)}
    (h : splitAtSign? cs = some (left, op, rest)) (later : Scan rest part parts) :
    Scan cs left ((op, part) :: parts) := by
  induction cs generalizing left with
  | nil => cases h
  | cons c cs ih =>
    rw [splitAtSign?] at h
    split at h
    next hs =>
      cases h
      exact .sign (sign?_eq_some_iff.mp hs) later
    next hs =>
      obtain ⟨⟨left', op', rest'⟩, hsplit, hm⟩ := Option.map_eq_some_iff.mp h
      cases hm
      exact .other (sign?_eq_none_iff_of_signs.mp hs) (ih hsplit)

theorem splitAtSign?_of_scan {part : List Char} {parts : List (Operator × List Char)}
    (h : Scan cs left ((op, part) :: parts)) :
    ∃ rest, splitAtSign? cs = some (left, op, rest) ∧ Scan rest part parts := by
  generalize hall : (op, part) :: parts = all at h
  induction h with
  | nil => cases hall
  | @sign cs op' rest part' parts' hb later _ =>
    cases hall
    cases cs with
    | nil =>
      have hnil := List.append_eq_nil_iff.mp hb.text.symm
      exact (symbol_ne_nil op hnil.1).elim
    | cons c cs => exact ⟨rest, by simp [splitAtSign?, sign?_eq_some_iff.mpr hb], later⟩
  | other hn _ ih =>
    obtain ⟨rest, hsplit, later⟩ := ih hall
    exact ⟨rest, by simp [splitAtSign?, sign?_eq_none_iff_of_signs.mpr hn, hsplit], later⟩

/-- A text is split as a comparison if it has one sign. -/
theorem comparison?_eq_some_iff :
    comparison? cs = some (left, op, right) ↔ Scan cs left [(op, right)] := by
  refine Option.bind_eq_some_iff.trans ⟨?_, fun h => ?_⟩
  · rintro ⟨⟨left', op', right'⟩, hsplit, h⟩
    dsimp only at h
    split at h
    next _ => cases h
    next hn =>
      cases h
      have hfree := splitAtSign?_eq_none_iff.mp (by simpa using hn)
      exact scan_of_splitAtSign? hsplit (scan_of_signFree hfree)
  · obtain ⟨rest, hsplit, later⟩ := splitAtSign?_of_scan h
    obtain ⟨rfl, hfree⟩ := signFree_of_scan later
    refine ⟨_, hsplit, ?_⟩
    simp [splitAtSign?_eq_none_iff.mpr hfree]

/-- A text is scanned in one way only. -/
theorem left_eq_of_scan {left' right' : List Char} {op' : Operator}
    (h : Scan cs left [(op, right)]) (h' : Scan cs left' [(op', right')]) : left = left' := by
  have hsome := (comparison?_eq_some_iff.mpr h).symm.trans (comparison?_eq_some_iff.mpr h')
  exact congrArg Prod.fst (Option.some.inj hsome)

def IsName (cs : List Char) : Prop := cs ≠ [] ∧ ∀ c ∈ cs, isFieldChar c

def IsGap (cs : List Char) : Prop := cs ≠ [] ∧ AllBlank cs

/-- A word in letters of either case. -/
def IsWord (word : String) (cs : List Char) : Prop := cs.map Char.toLower = word.toList

/-- A bound is any text on one line. -/
def IsBound (cs : List Char) : Prop := cs ≠ [] ∧ '\n' ∉ cs

/-- The parts of a range as it stands in a text. -/
structure RangeParts where
  field : List Char
  fieldGap : List Char
  between : List Char
  betweenGap : List Char
  lower : List Char
  lowerGap : List Char
  and : List Char
  andGap : List Char
  upper : List Char
  isName : IsName field
  isFieldGap : IsGap fieldGap
  isBetween : IsWord "between" between
  isBetweenGap : IsGap betweenGap
  isLower : IsBound lower
  isLowerGap : IsGap lowerGap
  isAnd : IsWord "and" and
  isAndGap : IsGap andGap
  isUpper : IsBound upper

namespace RangeParts

/-- From the word before the upper bound on. -/
def upperText (r : RangeParts) : List Char := r.lowerGap ++ (r.and ++ (r.andGap ++ r.upper))

def text (r : RangeParts) : List Char :=
  r.field ++ (r.fieldGap ++ (r.between ++ (r.betweenGap ++ (r.lower ++ r.upperText))))

end RangeParts

def IsRange (cs : List Char) : Prop := ∃ r : RangeParts, r.text = cs

theorem isGap_takeWhile (h : ¬ (cs.takeWhile isBlank).isEmpty) : IsGap (cs.takeWhile isBlank) :=
  ⟨fun he => h (List.isEmpty_iff.mpr he), fun _ hc => List.mem_takeWhile_imp hc⟩

theorem isWord_ne_nil {word : String} (h : word.toList ≠ []) (hw : IsWord word w) : w ≠ [] := by
  rintro rfl
  exact h hw.symm

theorem bounds?_eq_some (h : bounds? cs = some (lower, upper)) :
    ∃ rest, cs = lower ++ rest ∧ IsBound lower ∧ upperBound? rest = some upper := by
  induction cs generalizing lower with
  | nil => cases h
  | cons c cs ih =>
    rw [bounds?] at h
    split at h
    next _ => cases h
    next hc =>
    split at h
    next lower' upper' hb =>
      cases h
      obtain ⟨rest, rfl, ⟨-, hline⟩, hu⟩ := ih hb
      exact ⟨rest, rfl, ⟨List.cons_ne_nil _ _, by simp [Ne.symm hc, hline]⟩, hu⟩
    next _ =>
      obtain ⟨upper', hu, he⟩ := Option.map_eq_some_iff.mp h
      cases he
      exact ⟨cs, rfl, ⟨List.cons_ne_nil _ _, by simp [Ne.symm hc]⟩, hu⟩

theorem boundsAfterBlanks?_eq_some {bounds : List Char × List Char}
    (h : boundsAfterBlanks? cs = some bounds) :
    ∃ gap rest, cs = gap ++ rest ∧ IsGap gap ∧ bounds? rest = some bounds := by
  induction cs with
  | nil => cases h
  | cons c cs ih =>
    rw [boundsAfterBlanks?] at h
    split at h
    next hc =>
      obtain h | ⟨-, h⟩ := Option.or_eq_some_iff.mp h
      · obtain ⟨gap, rest, rfl, ⟨-, hgap⟩, hb⟩ := ih h
        exact ⟨c :: gap, rest, rfl,
          ⟨List.cons_ne_nil _ _, List.forall_mem_cons.mpr ⟨hc, hgap⟩⟩, hb⟩
      · exact ⟨[c], cs, rfl, ⟨List.cons_ne_nil _ _, List.forall_mem_singleton.mpr hc⟩, h⟩
    next _ => cases h

/-- What is read as a range is one, with the field and the bounds that are read. -/
theorem range?_eq_some (h : range? cs = some (field, lower, upper)) :
    ∃ r : RangeParts, r.text = cs ∧ r.field = field ∧ r.lower = lower ∧ r.upper = upper := by
  unfold range? at h
  dsimp only at h
  split at h
  next _ => cases h
  next hname =>
  simp only [Bool.or_eq_true, not_or] at hname
  obtain ⟨hfield, hgap⟩ := hname
  obtain ⟨rest, hbetween, h⟩ := Option.bind_eq_some_iff.mp h
  obtain ⟨⟨lower', upper'⟩, hbounds, h⟩ := Option.bind_eq_some_iff.mp h
  cases h
  obtain ⟨between, hb, hword⟩ := afterWord?_eq_some hbetween
  obtain ⟨betweenGap, inner, rfl, hbgap, hbounds⟩ := boundsAfterBlanks?_eq_some hbounds
  obtain ⟨final, rfl, hlower, hupper⟩ := bounds?_eq_some hbounds
  obtain ⟨lowerGap, and, andGap, rfl, ⟨hl, hlne⟩, hand, ⟨ha, hane⟩, -, hune, huline⟩ :=
    upperBound?_eq_some hupper
  have hname : IsName (cs.takeWhile isFieldChar) :=
    ⟨fun he => hfield (List.isEmpty_iff.mpr he), fun _ hc => List.mem_takeWhile_imp hc⟩
  refine ⟨⟨_, _, between, betweenGap, lower', lowerGap, and, andGap, upper', hname,
    isGap_takeWhile hgap, hword, hbgap, hlower, ⟨hlne, hl⟩, hand, ⟨hane, ha⟩, ⟨hune, huline⟩⟩,
    ?_, rfl, rfl, rfl⟩
  have hinner : between ++ (betweenGap ++
        (lower' ++ (lowerGap ++ (and ++ (andGap ++ upper'))))) =
      (cs.dropWhile isFieldChar).dropWhile isBlank := by
    rw [hb]
    simp only [List.append_assoc]
  rw [RangeParts.text, RangeParts.upperText, hinner, List.takeWhile_append_dropWhile,
    List.takeWhile_append_dropWhile]

theorem upperBound?_upperText (r : RangeParts) (hu : ¬ AllBlank r.upper) :
    upperBound? r.upperText = some (trimStart r.upper) :=
  upperBound?_of_parts r.isLowerGap.1 r.isLowerGap.2 r.isAnd r.isAndGap.1 r.isAndGap.2 hu
    r.isUpper.2

theorem bounds?_isSome (hl : IsBound lower) (h : (upperBound? rest).isSome) :
    (bounds? (lower ++ rest)).isSome := by
  -- not equal to some bounds: a later "and" makes the lower bound longer than the one given
  induction lower with
  | nil => exact (hl.1 rfl).elim
  | cons c lower ih =>
    have hc : c ≠ '\n' := (List.ne_of_not_mem_cons hl.2).symm
    rw [List.cons_append, bounds?, if_neg hc]
    split
    next _ => rfl
    next hb =>
      cases lower with
      | nil => simpa using h
      | cons d lower =>
        have hsome := ih ⟨List.cons_ne_nil _ _, List.not_mem_of_not_mem_cons hl.2⟩
        rw [hb] at hsome
        cases hsome

theorem boundsAfterBlanks?_isSome (hg : IsGap gap) (h : (bounds? rest).isSome) :
    (boundsAfterBlanks? (gap ++ rest)).isSome := by
  obtain ⟨hne, hg⟩ := hg
  induction gap with
  | nil => exact (hne rfl).elim
  | cons c gap ih =>
    obtain ⟨hc, hgap⟩ := List.forall_mem_cons.mp hg
    rw [List.cons_append, boundsAfterBlanks?, if_pos hc, Option.isSome_or, Bool.or_eq_true]
    cases gap with
    | nil => exact .inr h
    | cons d gap => exact .inl (ih (List.cons_ne_nil _ _) hgap)

theorem not_isBlank_of_isFieldChar (h : isFieldChar c) : ¬ isBlank c := by
  intro hb
  have hn : ¬ c.isAlphanum := by
    intro ha
    have := toNat_of_isAlphanum ha
    simp only [isBlank, Bool.or_eq_true, Bool.and_eq_true, decide_eq_true_eq, beq_iff_eq] at hb
    omega
  simp only [isFieldChar, Bool.or_eq_true, decide_eq_true_eq] at h
  rcases h with ((((((h | rfl) | rfl) | rfl) | h) | h) | h) | h
  · exact hn h
  · cases hb
  · cases hb
  · cases hb
  all_goals
    simp only [isBlank, h] at hb
    cases hb

theorem range?_isSome (r : RangeParts) (hu : ¬ AllBlank r.upper) : (range? r.text).isSome := by
  obtain ⟨hbetween, hbne⟩ : NoBlank r.between ∧ r.between ≠ [] :=
    ⟨noBlank_of_map_toLower (by decide) r.isBetween, isWord_ne_nil (by decide) r.isBetween⟩
  set inner := r.betweenGap ++ (r.lower ++ r.upperText) with hinner
  obtain ⟨htake, hdrop⟩ := takeWhile_dropWhile_append r.isFieldGap.2 hbetween hbne inner
  -- the name ends where the gap begins, since no character of a name is a blank
  obtain ⟨hname, hafter⟩ := takeWhile_dropWhile_append r.isName.2
    (fun c hc hf => not_isBlank_of_isFieldChar hf (r.isFieldGap.2 c hc)) r.isFieldGap.1
    (r.between ++ inner)
  have hbounds : (boundsAfterBlanks? inner).isSome :=
    boundsAfterBlanks?_isSome r.isBetweenGap
      (bounds?_isSome r.isLower (by rw [upperBound?_upperText r hu]; rfl))
  obtain ⟨bounds, hbounds⟩ := Option.isSome_iff_exists.mp hbounds
  unfold range?
  dsimp only
  rw [RangeParts.text, ← hinner, hname, hafter, htake, hdrop, afterWord?_of_map_toLower r.isBetween,
    if_neg]
  · change ((boundsAfterBlanks? inner).bind _).isSome
    rw [hbounds]
    rfl
  · simp only [Bool.or_eq_true, List.isEmpty_iff, not_or]
    exact ⟨r.isName.1, r.isFieldGap.1⟩

theorem not_allBlank_of_trimEnd (left : List Char)
    (h : trimEnd (left ++ right) = left ++ right) (hr : right ≠ []) : ¬ AllBlank right := by
  intro hb
  rw [trimEnd_append_allBlank left hb] at h
  have hp : (left ++ right).length ≤ left.length :=
    h ▸ (List.rdropWhile_prefix isBlank left).length_le
  rw [List.length_append] at hp
  exact hr (List.length_eq_zero_iff.mp (by omega))

/-- A text without blanks at its end is read as a range if it is one. -/
theorem isRange_iff (h : trimEnd cs = cs) : IsRange cs ↔ (range? cs).isSome := by
  constructor
  · rintro ⟨r, rfl⟩
    have hu : ¬ AllBlank r.upper := by
      refine not_allBlank_of_trimEnd (r.field ++ (r.fieldGap ++ (r.between ++ (r.betweenGap ++
        (r.lower ++ (r.lowerGap ++ (r.and ++ r.andGap))))))) ?_ r.isUpper.1
      simpa [RangeParts.text, RangeParts.upperText] using h
    exact range?_isSome r hu
  · intro hs
    obtain ⟨⟨field, lower, upper⟩, hr⟩ := Option.isSome_iff_exists.mp hs
    obtain ⟨r, hr, -⟩ := range?_eq_some hr
    exact ⟨r, hr⟩

theorem isEmpty_strip_iff : (strip (String.ofList cs)).isEmpty ↔ AllBlank cs := by
  simp [strip, trim_eq_nil_iff]

theorem mem_signs_of_scan {parts : List (Operator × List Char)} (h : Scan cs left parts) :
    ∀ part ∈ parts, part.1 ∈ Operator.signs := by
  induction h with
  | nil => exact List.forall_mem_nil _
  | sign hb _ ih => exact List.forall_mem_cons.mpr ⟨hb.isSign, ih⟩
  | other _ _ ih => exact ih

theorem read_of_range? (h : range? (trim clause.toList) = some (field, lower, upper)) :
    Clause.read now isDateField clause = do
      let x ← Operand.read now (isDateField (String.ofList field)) (String.ofList lower)
      let y ← Operand.read now (isDateField (String.ofList field)) (String.ofList upper)
      return ⟨String.ofList field, .between, x.value, rangeKind x y, some y.value⟩ := by
  unfold Clause.read
  simp only [h]
  rfl

theorem read_of_comparison? (hr : range? (trim clause.toList) = none)
    (h : comparison? (trim clause.toList) = some (left, op, right)) (hl : ¬ AllBlank left) :
    Clause.read now isDateField clause = do
      let x ← Operand.read now (isDateField (strip (String.ofList left))) (String.ofList right)
      return ⟨strip (String.ofList left), op, x.value, x.kind, none⟩ := by
  have hop : op ∈ Operator.signs :=
    mem_signs_of_scan (comparison?_eq_some_iff.mp h) _ List.mem_cons_self
  unfold Clause.read
  simp only [hr, h, if_neg (mt isEmpty_strip_iff.mp hl), make_of_sign hop]
  rfl

theorem read_of_blank_field (hr : range? (trim clause.toList) = none)
    (h : comparison? (trim clause.toList) = some (left, op, right)) (hl : AllBlank left) :
    Clause.read now isDateField clause = .error (.clause (.fieldMissing clause)) := by
  unfold Clause.read
  simp only [hr, h, if_pos (isEmpty_strip_iff.mpr hl)]
  rfl

theorem read_of_formless (hr : range? (trim clause.toList) = none)
    (h : comparison? (trim clause.toList) = none) :
    Clause.read now isDateField clause = .error (.clause (.unreadable clause)) := by
  unfold Clause.read
  simp only [hr, h]
  rfl

theorem isRange_trim_iff : IsRange (trim clause.toList) ↔ (range? (trim clause.toList)).isSome :=
  isRange_iff (trimEnd_trimEnd _)

/-- A condition that is read comes from a range or from a comparison, and from the operands that its
bounds or its right side spell. -/
theorem read_eq_ok (h : Clause.read now isDateField clause = .ok k) :
    (∃ field lower upper, range? (trim clause.toList) = some (field, lower, upper) ∧ ∃ x y,
      Operand.read now (isDateField (String.ofList field)) (String.ofList lower) = .ok x ∧
      Operand.read now (isDateField (String.ofList field)) (String.ofList upper) = .ok y ∧
      k = ⟨String.ofList field, .between, x.value, rangeKind x y, some y.value⟩) ∨
    ∃ left op right, Scan (trim clause.toList) left [(op, right)] ∧ ∃ x,
      Operand.read now (isDateField (strip (String.ofList left))) (String.ofList right) = .ok x ∧
      k = ⟨strip (String.ofList left), op, x.value, x.kind, none⟩ := by
  cases hr : range? (trim clause.toList) with
  | some parts =>
    obtain ⟨field, lower, upper⟩ := parts
    rw [read_of_range? hr] at h
    obtain ⟨x, hx, h⟩ := bind_eq_ok.mp h
    obtain ⟨y, hy, h⟩ := bind_eq_ok.mp h
    cases h
    exact .inl ⟨field, lower, upper, rfl, x, y, hx, hy, rfl⟩
  | none =>
    cases hc : comparison? (trim clause.toList) with
    | none =>
      rw [read_of_formless hr hc] at h
      cases h
    | some parts =>
      obtain ⟨left, op, right⟩ := parts
      by_cases hl : AllBlank left
      · rw [read_of_blank_field hr hc hl] at h
        cases h
      · rw [read_of_comparison? hr hc hl] at h
        obtain ⟨x, hx, h⟩ := bind_eq_ok.mp h
        cases h
        exact .inr ⟨left, op, right, comparison?_eq_some_iff.mp hc, x, hx, rfl⟩

/-- Operands that cannot be read are no fault of the clause, so a clause in one of the two forms has
no fault. -/
theorem read_ne_clause_of_operand {β : Type} {f : Operand → Outcome β}
    (hf : ∀ x, FailsIn [.value] (f x)) :
    (Operand.read now dateField token >>= f) ≠ .error (.clause fault) :=
  (failsIn_bind (Operand.failsIn_read now dateField token) hf).ne_error (by simp [Failure.area])

/-- A clause is at fault if it is in neither form: it has no field before its one sign, or it has no
sign or several. -/
theorem read_eq_clause_iff : Clause.read now isDateField clause = .error (.clause fault) ↔
    ¬ IsRange (trim clause.toList) ∧
      ((fault = .fieldMissing clause ∧
          ∃ left op right, Scan (trim clause.toList) left [(op, right)] ∧ AllBlank left) ∨
        (fault = .unreadable clause ∧
          ¬ ∃ left op right, Scan (trim clause.toList) left [(op, right)])) := by
  simp only [← comparison?_eq_some_iff, isRange_trim_iff]
  cases hr : range? (trim clause.toList) with
  | some parts =>
    -- a range is never at fault, not even if its bounds hold signs
    obtain ⟨field, lower, upper⟩ := parts
    rw [read_of_range? hr]
    refine iff_of_false (read_ne_clause_of_operand fun x => ?_) (by simp)
    exact failsIn_bind (Operand.failsIn_read _ _ _) fun _ => failsIn_ok _
  | none =>
    cases hc : comparison? (trim clause.toList) with
    | none =>
      rw [read_of_formless hr hc]
      simp [eq_comm]
    | some parts =>
      obtain ⟨left, op, right⟩ := parts
      by_cases hl : AllBlank left
      · rw [read_of_blank_field hr hc hl]
        simp [hl, eq_comm]
      · rw [read_of_comparison? hr hc hl]
        refine iff_of_false (read_ne_clause_of_operand fun _ => failsIn_ok _) ?_
        simp [hl]

end Clause

/-- The values that operands of a kind have: a moment in no time zone, a double that is a number, or
a text. -/
def OperandKind.Suits : OperandKind → Value → Prop
  | .date, v => ∃ m, v = .scalar (.moment m none)
  | .number, v => ∃ x : Float, x.isNaN = false ∧ v = .scalar (.float x)
  | .text, v => ∃ s, v = .text s

theorem Operand.suits_value (x : Operand) : x.kind.Suits x.value := by
  cases x with
  | text s => exact ⟨s, rfl⟩
  | number n => exact ⟨n.val, n.isNumber, rfl⟩
  | date m => exact ⟨m, rfl⟩

namespace Clause

/-- A clause is refused exactly if it is in neither form, and for no other reason than that. What is
read from the others has an upper bound if it is a range, and else a value of its kind. -/
theorem read_refuses_iff (now : Reference) (isDateField : String → Bool) (clause : String) :
    ((∃ fault, Clause.read now isDateField clause = .error (.clause fault)) ↔
      ¬ IsRange (trim clause.toList) ∧ ¬ IsComparison (trim clause.toList)) ∧
    (∀ fault, Clause.read now isDateField clause = .error (.clause fault) →
      fault = .unreadable clause ∨ fault = .fieldMissing clause) ∧
    ∀ k, Clause.read now isDateField clause = .ok k →
      (k.upper.isSome ↔ k.operator = .between) ∧
        (k.operator ≠ .between → k.kind.Suits k.value) := by
  refine ⟨?_, ?_, ?_⟩
  · simp only [read_eq_clause_iff]
    constructor
    · rintro ⟨fault, hr, ⟨-, left, op, right, hs, hl⟩ | ⟨-, hn⟩⟩
      · exact ⟨hr, fun ⟨_, _, _, hs', hl'⟩ => hl' ((left_eq_of_scan hs' hs) ▸ hl)⟩
      · exact ⟨hr, fun ⟨left, op, right, hs, _⟩ => hn ⟨left, op, right, hs⟩⟩
    · rintro ⟨hr, hc⟩
      by_cases hs : ∃ left op right, Scan (trim clause.toList) left [(op, right)]
      · obtain ⟨left, op, right, hs⟩ := hs
        have hl : AllBlank left := by_contra fun hl => hc ⟨left, op, right, hs, hl⟩
        exact ⟨_, hr, .inl ⟨rfl, left, op, right, hs, hl⟩⟩
      · exact ⟨_, hr, .inr ⟨rfl, hs⟩⟩
  · intro fault h
    obtain ⟨-, ⟨hf, -⟩ | ⟨hf, -⟩⟩ := read_eq_clause_iff.mp h
    · exact .inr hf
    · exact .inl hf
  · intro k h
    obtain ⟨_, _, _, -, x, y, -, -, rfl⟩ | ⟨left, op, right, hs, x, -, rfl⟩ := read_eq_ok h
    · exact ⟨by simp, fun hne => (hne rfl).elim⟩
    · have hop : op ≠ .between :=
        Operator.ne_between_of_mem_signs (mem_signs_of_scan hs _ List.mem_cons_self)
      exact ⟨by simp [hop], fun _ => x.suits_value⟩

theorem read_refuses_iff_signs :
    (Clause.read ⟨.null, .ofYear 2024⟩ (fun _ => false) "a == b == c" =
        .error (.clause (.unreadable "a == b == c")) ∧
      ¬ IsRange (trim "a == b == c".toList) ∧ ¬ IsComparison (trim "a == b == c".toList)) ∧
    ∃ k, Clause.read ⟨.null, .ofYear 2024⟩ (fun _ => false) "a >== 2024-05-01" = .ok k ∧
      (k.upper.isSome ↔ k.operator = .between) ∧ k.operator ≠ .between ∧ k.kind.Suits k.value := by
  have twice : Clause.read ⟨.null, .ofYear 2024⟩ (fun _ => false) "a == b == c" =
      .error (.clause (.unreadable "a == b == c")) := rfl
  have once : Clause.read ⟨.null, .ofYear 2024⟩ (fun _ => false) "a >== 2024-05-01" =
      .ok ⟨"a", .ge, .text "= 2024-05-01", .text, none⟩ := rfl
  obtain ⟨refused, -, -⟩ := read_refuses_iff ⟨.null, .ofYear 2024⟩ (fun _ => false) "a == b == c"
  obtain ⟨-, -, found⟩ := read_refuses_iff ⟨.null, .ofYear 2024⟩ (fun _ => false) "a >== 2024-05-01"
  obtain ⟨hupper, hkind⟩ := found _ once
  exact ⟨⟨twice, refused.mp ⟨_, twice⟩⟩, _, once, hupper, by decide, hkind (by decide)⟩

end Clause
end NotePlot
