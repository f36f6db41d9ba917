import NotePlot.Proofs.Clause.Form
/-! Clauses as they are written: a reader finds in them what was written. -/
namespace NotePlot

variable {now : Reference} {isDateField : String → Bool} {f : String} {op : Operator}
  {v a b : String}
  {c : Char} {cs rest : List Char}

open Text Clause

/-- The operators that have a sign. -/
def Operator.signs : List Operator := [eq, ne, gt, ge, lt, le]

theorem Operator.ne_between_of_mem_signs (h : op ∈ signs) : op ≠ between := by
  rintro rfl
  simp [signs] at h

theorem Operand.read_of_trim_eq {s t : String} {dateField : Bool}
    (h : trim s.toList = trim t.toList) : read now dateField s = read now dateField t := by
  simp only [read, h]

namespace Clause

/-- A name that can stand before a range as well as before a sign. -/
structure IsField (f : String) : Prop where
  nonempty : f ≠ ""
  chars : ∀ c ∈ f.toList, c.isAlphanum ∨ c ∈ ['_', '.', '-']

instance (f : String) : Decidable (IsField f) :=
  have : Decidable (∀ c ∈ f.toList, c.isAlphanum ∨ c ∈ ['_', '.', '-']) := List.decidableBAll _ _
  decidable_of_iff (f ≠ "" ∧ ∀ c ∈ f.toList, c.isAlphanum ∨ c ∈ ['_', '.', '-'])
    ⟨fun h => ⟨h.1, h.2⟩, fun h => ⟨h.nonempty, h.chars⟩⟩

def comparisonText (f : String) (op : Operator) (v : String) : String :=
  f ++ " " ++ op.symbol ++ " " ++ v

def rangeText (f a b : String) : String := f ++ " between " ++ a ++ " and " ++ b

theorem toNat_of_isAlphanum (h : c.isAlphanum) : (48 ≤ c.toNat ∧ c.toNat ≤ 57) ∨
    (65 ≤ c.toNat ∧ c.toNat ≤ 90) ∨ (97 ≤ c.toNat ∧ c.toNat ≤ 122) := by
  change ((decide ('A'.val ≤ c.val ∧ c.val ≤ 'Z'.val) ||
    (decide ('a'.val ≤ c.val) && decide (c.val ≤ 'z'.val))) ||
      (decide ('0'.val ≤ c.val) && decide (c.val ≤ '9'.val))) = true at h
  simp only [Bool.or_eq_true, Bool.and_eq_true, decide_eq_true_eq, UInt32.le_iff_toNat_le] at h
  change (((65 ≤ c.toNat ∧ c.toNat ≤ 90) ∨ (97 ≤ c.toNat ∧ c.toNat ≤ 122)) ∨
    (48 ≤ c.toNat ∧ c.toNat ≤ 57)) at h
  omega

namespace IsField

theorem isFieldChar (hf : IsField f) : ∀ c ∈ f.toList, Clause.isFieldChar c := by
  intro c hc
  rcases hf.chars c hc with h | h
  · simp [Clause.isFieldChar, h]
  · simp only [List.mem_cons, List.not_mem_nil, or_false] at h
    rcases h with rfl | rfl | rfl <;> rfl

theorem noBlank (hf : IsField f) : NoBlank f.toList := by
  intro c hc hb
  rcases hf.chars c hc with h | h
  · have hn := toNat_of_isAlphanum h
    simp only [isBlank, Bool.or_eq_true, Bool.and_eq_true, decide_eq_true_eq, beq_iff_eq] at hb
    omega
  · simp only [List.mem_cons, List.not_mem_nil, or_false] at h
    rcases h with rfl | rfl | rfl <;> cases hb

theorem isQuiet (hf : IsField f) : ∀ c ∈ f.toList, IsQuiet c := by
  intro c hc hq
  simp only [List.mem_cons, List.not_mem_nil, or_false] at hq
  rcases hf.chars c hc with h | h
  · rcases hq with rfl | rfl | rfl | rfl <;> cases h
  · rcases hq with rfl | rfl | rfl | rfl <;> simp at h

theorem toList_ne_nil (hf : IsField f) : f.toList ≠ [] := by
  simpa using hf.nonempty

end IsField

/-- A range needs its word after the field. -/
theorem range?_append (hf : IsField f) (rest : List Char) : range? (f.toList ++ ' ' :: rest) =
    (afterWord? "between".toList (trimStart rest)).bind fun cs =>
      (boundsAfterBlanks? cs).map fun bounds => (f.toList, bounds.1, bounds.2) := by
  have hgap : ∀ c ∈ (' ' :: rest).head?, ¬ Clause.isFieldChar c := by
    rintro c ⟨⟩
    decide
  obtain ⟨ht, hd⟩ := takeWhile_dropWhile_of_head hf.isFieldChar hgap
  unfold range?
  have hb : ((' ' :: rest).takeWhile isBlank).isEmpty = false := by simp
  have hs : (' ' :: rest).dropWhile isBlank = trimStart rest := trimStart_cons_of_isBlank rfl
  simp only [ht, hd, hs, hb, List.isEmpty_eq_false_iff.mpr hf.toList_ne_nil, Bool.or_self,
    Bool.false_eq_true, if_false]
  cases afterWord? "between".toList (trimStart rest) with
  | none => rfl
  | some cs => cases h : boundsAfterBlanks? cs <;> simp [h]

theorem noBlank_symbol (hop : op ∈ Operator.signs) : NoBlank op.symbol.toList := by
  simp only [Operator.signs, List.mem_cons, List.not_mem_nil, or_false] at hop
  rcases hop with rfl | rfl | rfl | rfl | rfl | rfl <;> decide

theorem symbol_ne_nil (op : Operator) : op.symbol.toList ≠ [] := by
  cases op <;> decide

/-- A sign that no equality sign follows is read as it stands. -/
theorem sign?_symbol (hop : op ∈ Operator.signs) (h : rest.head? ≠ some '=') :
    sign? (op.symbol.toList ++ rest) = some (op, rest) := by
  simp only [Operator.signs, List.mem_cons, List.not_mem_nil, or_false] at hop
  cases rest with
  | nil => rcases hop with rfl | rfl | rfl | rfl | rfl | rfl <;> rfl
  | cons d rest =>
    have hd : d ≠ '=' := by simpa using h
    rcases hop with rfl | rfl | rfl | rfl | rfl | rfl <;> simp [sign?, Operator.symbol, hd]

theorem afterWord?_symbol (hop : op ∈ Operator.signs) (rest : List Char) :
    afterWord? "between".toList (op.symbol.toList ++ rest) = none := by
  simp only [Operator.signs, List.mem_cons, List.not_mem_nil, or_false] at hop
  rcases hop with rfl | rfl | rfl | rfl | rfl | rfl <;> simp [afterWord?, Operator.symbol]

/-- What is left of a comparison after trimming: only the operand loses blanks. -/
theorem trim_comparisonText (hf : IsField f) (hop : op ∈ Operator.signs) (v : String) :
    trim (comparisonText f op v).toList =
      f.toList ++ ' ' :: (op.symbol.toList ++ trimEnd (' ' :: v.toList)) := by
  have hcs : (comparisonText f op v).toList =
      f.toList ++ ' ' :: (op.symbol.toList ++ ' ' :: v.toList) := by
    simp [comparisonText]
  have hne : ¬ AllBlank (op.symbol.toList ++ ' ' :: v.toList) :=
    not_allBlank_append_of_noBlank (noBlank_symbol hop) (symbol_ne_nil op) _
  rw [hcs, trim_append_of_noBlank hf.noBlank hf.toList_ne_nil, trimEnd_cons hne,
    trimEnd_append_of_noBlank (noBlank_symbol hop)]

/-- No comparison is taken for a range. -/
theorem range?_comparison (hf : IsField f) (hop : op ∈ Operator.signs) (rest : List Char) :
    range? (f.toList ++ ' ' :: (op.symbol.toList ++ rest)) = none := by
  rw [range?_append hf, trimStart_append_of_noBlank (noBlank_symbol hop) (symbol_ne_nil op),
    afterWord?_symbol hop, Option.bind_none]

/-- A comparison whose operand has no sign is split at its operator. -/
theorem comparison?_append (hf : IsField f) (hop : op ∈ Operator.signs) (hs : SignFree rest)
    (h : rest.head? ≠ some '=') : comparison? (f.toList ++ ' ' :: (op.symbol.toList ++ rest)) =
      some (f.toList ++ [' '], op, rest) := by
  have hquiet : ∀ c ∈ f.toList ++ [' '], IsQuiet c := by
    intro c hc
    rcases List.mem_append.mp hc with hc | hc
    · exact hf.isQuiet c hc
    · obtain rfl := List.mem_singleton.mp hc
      exact show ' ' ∉ ['=', '!', '>', '<'] by decide
  have hsplit := splitAtSign?_append hquiet (sign?_symbol hop h)
  rw [List.append_assoc, List.singleton_append] at hsplit
  simp [comparison?, hsplit, splitAtSign?_eq_none_iff.mpr hs]

theorem make_of_sign (hop : op ∈ Operator.signs) (f : String) (value : Value) (kind : OperandKind) :
    Condition.make f op value kind none = .ok ⟨f, op, value, kind, none⟩ := by
  simp [Condition.make, Operator.ne_between_of_mem_signs hop]

/-- A comparison is read as the field, the operator and the operand that were written. -/
theorem read_comparisonText (now : Reference) (isDateField : String → Bool) (hf : IsField f)
    (hop : op ∈ Operator.signs) (hv : SignFree v.toList) :
    Clause.read now isDateField (comparisonText f op v) = do
      let x ← Operand.read now (isDateField f) v
      return ⟨f, op, x.value, x.kind, none⟩ := by
  have hprefix : trimEnd (' ' :: v.toList) <+: ' ' :: v.toList := List.rdropWhile_prefix _ _
  have hspace : SignFree (' ' :: v.toList) :=
    signFree_cons.mpr ⟨sign?_of_isQuiet (show ' ' ∉ ['=', '!', '>', '<'] by decide), hv⟩
  have hhead : (trimEnd (' ' :: v.toList)).head? ≠ some '=' := by
    intro h
    obtain ⟨cs, hcs⟩ := List.head?_eq_some_iff.mp h
    rw [hcs] at hprefix
    exact absurd (List.cons_prefix_cons.mp hprefix).1 (by decide)
  have hfield : strip (String.ofList (f.toList ++ [' '])) = f := by
    have hend : trimEnd [' '] = [] := rfl
    rw [strip, String.toList_ofList, trim_append_of_noBlank hf.noBlank hf.toList_ne_nil, hend,
      List.append_nil, String.ofList_toList]
  have hoperand : Operand.read now (isDateField f) (String.ofList (trimEnd (' ' :: v.toList))) =
      Operand.read now (isDateField f) v := by
    apply Operand.read_of_trim_eq
    rw [String.toList_ofList, trim_trimEnd, trim_cons_of_isBlank isBlank_space]
  unfold Clause.read
  simp only [trim_comparisonText hf hop, range?_comparison hf hop,
    comparison?_append hf hop (hspace.of_infix hprefix.isInfix) hhead, hfield, hoperand,
    make_of_sign hop]
  have hne : f.isEmpty = false := by simpa using hf.nonempty
  simp only [hne]
  rfl

/-- What is left of a range after trimming: only the upper bound loses blanks. -/
theorem trim_rangeText (hf : IsField f) (a : String) (hb : ¬ AllBlank b.toList) :
    trim (rangeText f a b).toList = f.toList ++ ' ' ::
      ("between".toList ++ ' ' :: (a.toList ++ (" and ".toList ++ trimEnd b.toList))) := by
  have hcs : (rangeText f a b).toList = f.toList ++
      (" between ".toList ++ (a.toList ++ (" and ".toList ++ b.toList))) := by
    simp [rangeText]
  have hupper : ¬ AllBlank (" and ".toList ++ b.toList) := not_allBlank_append _ hb
  have hlower : ¬ AllBlank (a.toList ++ (" and ".toList ++ b.toList)) :=
    not_allBlank_append _ hupper
  rw [hcs, trim_append_of_noBlank hf.noBlank hf.toList_ne_nil, trimEnd_append _ hlower,
    trimEnd_append _ hupper, trimEnd_append _ hb]
  rfl

/-- The bounds of a range are those that were written, whatever the lower one holds. -/
theorem range?_rangeText (hf : IsField f) {lower upper : List Char} (hl : ¬ AllBlank lower)
    (hu : ¬ AllBlank upper) (hlline : '\n' ∉ lower) (huline : '\n' ∉ upper) (hand : NoAnd upper) :
    range? (f.toList ++ ' ' ::
        ("between".toList ++ ' ' :: (lower ++ (" and ".toList ++ upper)))) =
      some (f.toList, trimStart lower, trimStart upper) := by
  have hne : trimStart lower ≠ [] := mt trimStart_eq_nil_iff.mp hl
  have hline : '\n' ∉ trimStart lower := fun h => hlline ((List.dropWhile_sublist _).subset h)
  have hbounds := bounds?_append hne hline hu huline hand
  have hword : trimStart ("between".toList ++ ' ' :: (lower ++ (" and ".toList ++ upper))) =
      "between".toList ++ ' ' :: (lower ++ (" and ".toList ++ upper)) := rfl
  rw [range?_append hf, hword, afterWord?_append (by decide), Option.bind_some,
    boundsAfterBlanks?_append isBlank_space hl hbounds, Option.map_some]

/-- A range is read as the field and the two operands that were written. -/
theorem read_rangeText (now : Reference) (isDateField : String → Bool) (hf : IsField f)
    (ha : ¬ AllBlank a.toList) (hb : ¬ AllBlank b.toList) (haline : '\n' ∉ a.toList)
    (hbline : '\n' ∉ b.toList) (hand : NoAnd b.toList) :
    Clause.read now isDateField (rangeText f a b) = do
      let x ← Operand.read now (isDateField f) a
      let y ← Operand.read now (isDateField f) b
      return ⟨f, .between, x.value,
        if x.kind = .date ∨ y.kind = .date then .date else x.kind, some y.value⟩ := by
  have hbend : ¬ AllBlank (trimEnd b.toList) := by
    rw [← trimEnd_eq_nil_iff, trimEnd_trimEnd, trimEnd_eq_nil_iff]
    exact hb
  have hbendline : '\n' ∉ trimEnd b.toList :=
    fun h => hbline ((List.rdropWhile_prefix _ _).subset h)
  have handend : NoAnd (trimEnd b.toList) := by rwa [NoAnd, words_trimEnd]
  have hlower : Operand.read now (isDateField f) (String.ofList (trimStart a.toList)) =
      Operand.read now (isDateField f) a := by
    apply Operand.read_of_trim_eq
    rw [String.toList_ofList, trim_trimStart]
  have hupper : Operand.read now (isDateField f) (String.ofList (trimStart (trimEnd b.toList))) =
      Operand.read now (isDateField f) b := by
    apply Operand.read_of_trim_eq
    rw [String.toList_ofList, trim_trimStart, trim_trimEnd]
  have hkind : ∀ x y : Operand, rangeKind x y =
      if x.kind = .date ∨ y.kind = .date then .date else x.kind := by
    intro x y
    by_cases hy : y.kind = .date <;> by_cases hx : x.kind = .date <;> simp [rangeKind, hx, hy]
  unfold Clause.read
  simp only [trim_rangeText hf a hb, range?_rangeText hf ha hbend haline hbendline handend,
    String.ofList_toList, hlower, hupper, hkind]
  rfl

/-- Reading undoes writing, for comparisons and for ranges. -/
theorem read_written (now : Reference) (isDateField : String → Bool) (hf : IsField f) :
    (∀ op ∈ Operator.signs, ∀ v : String, SignFree v.toList →
      Clause.read now isDateField (comparisonText f op v) = do
        let x ← Operand.read now (isDateField f) v
        return ⟨f, op, x.value, x.kind, none⟩) ∧
    ∀ a b : String, ¬ AllBlank a.toList → ¬ AllBlank b.toList → '\n' ∉ a.toList →
      '\n' ∉ b.toList → NoAnd b.toList →
      Clause.read now isDateField (rangeText f a b) = do
        let x ← Operand.read now (isDateField f) a
        let y ← Operand.read now (isDateField f) b
        return ⟨f, .between, x.value,
          if x.kind = .date ∨ y.kind = .date then .date else x.kind, some y.value⟩ :=
  ⟨fun _ hop _ hv => read_comparisonText now isDateField hf hop hv,
    fun _ _ ha hb haline hbline hand => read_rangeText now isDateField hf ha hb haline hbline hand⟩

theorem read_written_due : IsField "due" ∧
    Clause.read ⟨.null, .ofYear 2024⟩ (fun _ => false) "due >= = x" =
      .ok ⟨"due", .ge, .text "= x", .text, none⟩ ∧
    Clause.read ⟨.null, .ofYear 2024⟩ (fun _ => false) "due between a and b > 1 and 2024-05-01" =
      .ok ⟨"due", .between, .text "a and b > 1", .date, some
        (.scalar (.moment (.midnight { year := 2024, month := 5, day := 1 }) none))⟩ := by
  have hf : IsField "due" := by decide
  obtain ⟨hsign, hrange⟩ := read_written ⟨.null, .ofYear 2024⟩ (fun _ => false) hf
  refine ⟨hf, ?_, ?_⟩
  · exact (hsign .ge (by decide) "= x" (by decide)).trans rfl
  · exact (hrange "a and b > 1" "2024-05-01" (by decide) (by decide) (by decide) (by decide)
      (by decide)).trans rfl

end Clause
end NotePlot
