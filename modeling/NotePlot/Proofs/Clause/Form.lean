import NotePlot.Clause.Reading
import NotePlot.Proofs.Text.Blank
/-! The two forms of a clause: where a comparison has its sign, and where a range has its bounds. -/
namespace NotePlot.Clause

open Text

variable {c : Char} {cs left rest word s w lower upper : List Char} {op : Operator}

/-- The shortest comparison signs: each of the others begins with one of these. -/
def marks : List (List Char) := [['=', '='], ['!', '='], ['>'], ['<']]

/-- A text with no comparison sign anywhere. -/
def SignFree (cs : List Char) : Prop := ∀ mark ∈ marks, ¬ mark <:+: cs

instance (cs : List Char) : Decidable (SignFree cs) := List.decidableBAll _ marks

/-- A character that no comparison sign begins with. -/
def IsQuiet (c : Char) : Prop := c ∉ ['=', '!', '>', '<']

theorem sign?_eq_none_iff : sign? cs = none ↔ ∀ mark ∈ marks, ¬ mark <+: cs := by
  constructor
  · rintro h mark hm ⟨rest, rfl⟩
    simp only [marks, List.mem_cons, List.not_mem_nil, or_false] at hm
    rcases hm with rfl | rfl | rfl | rfl
    · simp [sign?] at h
    · simp [sign?] at h
    · simp only [List.cons_append, List.nil_append, sign?] at h
      split at h <;> simp_all
    · simp only [List.cons_append, List.nil_append, sign?] at h
      split at h <;> simp_all
  · intro h
    unfold sign?
    split
    case h_1 => exact (h ['=', '='] (by simp [marks]) ⟨_, rfl⟩).elim
    case h_2 => exact (h ['!', '='] (by simp [marks]) ⟨_, rfl⟩).elim
    case h_3 => exact (h ['>'] (by simp [marks]) ⟨_, rfl⟩).elim
    case h_4 => exact (h ['<'] (by simp [marks]) ⟨_, rfl⟩).elim
    case h_5 => exact (h ['>'] (by simp [marks]) ⟨_, rfl⟩).elim
    case h_6 => exact (h ['<'] (by simp [marks]) ⟨_, rfl⟩).elim
    case h_7 => rfl

theorem signFree_nil : SignFree [] := by
  intro mark hm h
  obtain rfl := List.infix_nil.mp h
  simp [marks] at hm

theorem signFree_cons : SignFree (c :: cs) ↔ sign? (c :: cs) = none ∧ SignFree cs := by
  simp only [SignFree, List.infix_cons_iff, not_or, forall_and, sign?_eq_none_iff]

theorem SignFree.of_infix (h : SignFree cs) (hi : rest <:+: cs) : SignFree rest :=
  fun mark hm hr => h mark hm (hr.trans hi)

/-- A text can be split at a sign unless it has none. -/
theorem splitAtSign?_eq_none_iff : splitAtSign? cs = none ↔ SignFree cs := by
  induction cs with
  | nil => exact ⟨fun _ => signFree_nil, fun _ => rfl⟩
  | cons c cs ih =>
    rw [signFree_cons, ← ih, splitAtSign?]
    split
    next h => simp [h]
    next h => simp [h]

theorem sign?_of_isQuiet (h : IsQuiet c) : sign? (c :: cs) = none := by
  unfold sign?
  split
  case h_7 => rfl
  all_goals simp_all [IsQuiet]

/-- The first sign of a text comes after all that is quiet. -/
theorem splitAtSign?_append (hl : ∀ c ∈ left, IsQuiet c) (h : sign? cs = some (op, rest)) :
    splitAtSign? (left ++ cs) = some (left, op, rest) := by
  induction left with
  | nil =>
    cases cs with
    | nil => simp [sign?] at h
    | cons c cs => simp [splitAtSign?, h]
  | cons c left ih =>
    obtain ⟨hc, hleft⟩ := List.forall_mem_cons.mp hl
    simp [splitAtSign?, sign?_of_isQuiet hc, ih hleft]

theorem afterWord?_of_map_toLower (h : w.map Char.toLower = word) (rest : List Char) :
    afterWord? word (w ++ rest) = some rest := by
  have hlen : word.length = w.length := by rw [← h, List.length_map]
  simp [afterWord?, hlen, h]

theorem afterWord?_append (h : word.map Char.toLower = word) (rest : List Char) :
    afterWord? word (word ++ rest) = some rest :=
  afterWord?_of_map_toLower h rest

theorem afterWord?_eq_some (h : afterWord? word cs = some rest) :
    ∃ w, cs = w ++ rest ∧ w.map Char.toLower = word := by
  unfold afterWord? at h
  split at h
  next hw =>
    cases h
    exact ⟨cs.take word.length, (List.take_append_drop _ _).symm, hw⟩
  next _ => cases h

/-- Blanks have no letter case. -/
theorem toLower_of_isBlank (h : isBlank c) : c.toLower = c := by
  have hn : ¬ (c.val ≥ 'A'.val ∧ c.val ≤ 'Z'.val) := by
    rintro ⟨hA, hZ⟩
    have hA : 65 ≤ c.toNat := hA
    have hZ : c.toNat ≤ 90 := hZ
    simp only [isBlank, Bool.or_eq_true, Bool.and_eq_true, decide_eq_true_eq, beq_iff_eq] at h
    omega
  exact dif_neg hn

theorem noBlank_of_map_toLower (h : NoBlank word) (hw : w.map Char.toLower = word) :
    NoBlank w := by
  subst hw
  intro c hc hb
  have hl : c.toLower ∈ w.map Char.toLower := List.mem_map_of_mem hc
  rw [toLower_of_isBlank hb] at hl
  exact h c hl hb

theorem noBlank_and : NoBlank "and".toList := by decide

/-- An upper bound stands after the word that announces it. -/
theorem upperBound?_eq_some (h : upperBound? cs = some upper) : ∃ before w after,
    cs = before ++ w ++ after ++ upper ∧ (AllBlank before ∧ before ≠ []) ∧
      w.map Char.toLower = "and".toList ∧ (AllBlank after ∧ after ≠ []) ∧
      trimStart upper = upper ∧ upper ≠ [] ∧ '\n' ∉ upper := by
  unfold upperBound? at h
  split at h
  next _ => cases h
  next hbefore =>
  obtain ⟨rest, hrest, h⟩ := Option.bind_eq_some_iff.mp h
  dsimp only at h
  split at h
  next _ => cases h
  next hafter =>
  cases h
  obtain ⟨w, hcs, hw⟩ := afterWord?_eq_some hrest
  simp only [Bool.or_eq_true, List.isEmpty_iff, List.contains_eq_mem, decide_eq_true_eq,
    not_or] at hbefore hafter
  refine ⟨cs.takeWhile isBlank, w, rest.takeWhile isBlank, ?_, ⟨?_, hbefore⟩, hw, ⟨?_, hafter.1.1⟩,
    ?_, hafter.1.2, hafter.2⟩
  · rw [List.append_assoc, List.takeWhile_append_dropWhile, List.append_assoc, ← hcs,
      List.takeWhile_append_dropWhile]
  · exact fun c hc => List.mem_takeWhile_imp hc
  · exact fun c hc => List.mem_takeWhile_imp hc
  · exact List.dropWhile_idempotent isBlank rest

/-- Among the words of a text with an upper bound is the one that announces it. -/
theorem mem_words_of_upperBound? (h : upperBound? cs = some upper) :
    ∃ w ∈ words cs, w.map Char.toLower = "and".toList := by
  obtain ⟨before, w, after, rfl, ⟨hbefore, -⟩, hw, ⟨hafter, hne⟩, -⟩ := upperBound?_eq_some h
  refine ⟨w, ?_, hw⟩
  have hn : NoBlank w := noBlank_of_map_toLower noBlank_and hw
  have hw : w ≠ [] := by
    rintro rfl
    cases hw
  cases after with
  | nil => exact (hne rfl).elim
  | cons c after =>
    rw [List.append_assoc, List.append_assoc, words_allBlank_append hbefore, List.cons_append,
      words_append_blank (hafter c List.mem_cons_self), words_of_noBlank hn hw]
    exact List.mem_append_left _ List.mem_cons_self

/-- A text has no bounds if no part of it that is left after its first character announces one. -/
theorem bounds?_eq_none (h : ∀ s, s <:+ cs → upperBound? s = none) (c : Char) :
    bounds? (c :: cs) = none := by
  induction cs generalizing c with
  | nil =>
    simp only [bounds?, h [] (List.suffix_refl _)]
    split <;> rfl
  | cons d cs ih =>
    have hcs : ∀ s, s <:+ cs → upperBound? s = none :=
      fun s hs => h s (hs.trans (List.suffix_cons d cs))
    rw [bounds?, ih hcs d, h (d :: cs) (List.suffix_refl _)]
    split <;> rfl

/-- None of the words of a text announces an upper bound. -/
def NoAnd (cs : List Char) : Prop := ∀ w ∈ words cs, w.map Char.toLower ≠ "and".toList

instance (cs : List Char) : Decidable (NoAnd cs) := List.decidableBAll _ (words cs)

theorem upperBound?_of_noAnd (h : NoAnd cs) : upperBound? cs = none := by
  cases hu : upperBound? cs with
  | none => rfl
  | some upper =>
    obtain ⟨w, hw, hand⟩ := mem_words_of_upperBound? hu
    exact (h w hw hand).elim

theorem NoAnd.of_suffix (h : NoAnd cs) (hc : isBlank c) (hs : c :: s <:+ cs) : NoAnd (c :: s) :=
  fun w hw => h w (words_subset_of_suffix hc hs hw)

/-- An upper bound is found after any blanks, the word in letters of either case and more
blanks. -/
theorem upperBound?_of_parts {before after : List Char} (hne : before ≠ [])
    (hbefore : AllBlank before) (hw : w.map Char.toLower = "and".toList) (hane : after ≠ [])
    (hafter : AllBlank after) (hu : ¬ AllBlank upper) (hn : '\n' ∉ upper) :
    upperBound? (before ++ (w ++ (after ++ upper))) = some (trimStart upper) := by
  have hwne : w ≠ [] := by
    rintro rfl
    cases hw
  obtain ⟨htake, hdrop⟩ := takeWhile_dropWhile_append hbefore
    (noBlank_of_map_toLower noBlank_and hw) hwne (after ++ upper)
  have hgap : (after ++ upper).takeWhile isBlank ≠ [] := by
    rw [List.takeWhile_append_of_pos hafter]
    exact List.append_ne_nil_of_left_ne_nil hane _
  have hrest : (after ++ upper).dropWhile isBlank = trimStart upper :=
    List.dropWhile_append_of_pos hafter
  have hupper : trimStart upper ≠ [] := mt trimStart_eq_nil_iff.mp hu
  have hline : '\n' ∉ trimStart upper := fun h => hn ((List.dropWhile_sublist _).subset h)
  rw [upperBound?, htake, hdrop, afterWord?_of_map_toLower hw, if_neg (mt List.isEmpty_iff.mp hne)]
  change (if ((after ++ upper).takeWhile isBlank).isEmpty ||
    ((after ++ upper).dropWhile isBlank).isEmpty ||
      ((after ++ upper).dropWhile isBlank).contains '\n' then none
    else some ((after ++ upper).dropWhile isBlank)) = some (trimStart upper)
  rw [hrest, if_neg]
  simp only [Bool.or_eq_true, List.isEmpty_iff, List.contains_eq_mem, decide_eq_true_eq, not_or]
  exact ⟨⟨hgap, hupper⟩, hline⟩

theorem upperBound?_append (hu : ¬ AllBlank upper) (hn : '\n' ∉ upper) :
    upperBound? (" and ".toList ++ upper) = some (trimStart upper) := by
  have hblank : AllBlank [' '] := List.forall_mem_singleton.mpr isBlank_space
  have hparts : " and ".toList ++ upper = [' '] ++ ("and".toList ++ ([' '] ++ upper)) := rfl
  have hspace : [' '] ≠ [] := List.cons_ne_nil ' ' []
  rw [hparts, upperBound?_of_parts hspace hblank rfl hspace hblank hu hn]

/-- No text from a later blank on announces an upper bound. -/
theorem upperBound?_of_suffix (hw : NoAnd upper) (hs : s <:+ "and ".toList ++ upper) :
    upperBound? s = none := by
  cases hu : upperBound? s with
  | none => rfl
  | some u =>
    obtain ⟨before, w, after, rfl, ⟨hbefore, hne⟩, -⟩ := upperBound?_eq_some hu
    cases before with
    | nil => exact (hne rfl).elim
    | cons c before =>
      simp only [List.cons_append] at hs hu
      have hc : isBlank c := hbefore c List.mem_cons_self
      have hs' : c :: (before ++ w ++ after ++ u) <:+ ' ' :: upper :=
        suffix_of_suffix_append noBlank_and hc hs
      have hn : NoAnd (' ' :: upper) := by rwa [NoAnd, words_blank_cons isBlank_space]
      rw [upperBound?_of_noAnd (hn.of_suffix hc hs')] at hu
      cases hu

/-- The last word that can announce an upper bound does; the lower bound is all before it. -/
theorem bounds?_append (hl : lower ≠ []) (hline : '\n' ∉ lower) (hu : ¬ AllBlank upper)
    (hn : '\n' ∉ upper) (hw : NoAnd upper) :
    bounds? (lower ++ (" and ".toList ++ upper)) = some (lower, trimStart upper) := by
  induction lower with
  | nil => exact (hl rfl).elim
  | cons c lower ih =>
    have hc : c ≠ '\n' := (List.ne_of_not_mem_cons hline).symm
    have hline := List.not_mem_of_not_mem_cons hline
    cases lower with
    | nil =>
      have hnone : bounds? (" and ".toList ++ upper) = none :=
        bounds?_eq_none (fun s hs => upperBound?_of_suffix hw hs) ' '
      simp only [List.cons_append, List.nil_append, bounds?, hc, if_false, hnone,
        upperBound?_append hu hn, Option.map_some]
    | cons d lower => rw [List.cons_append, bounds?, ih (by simp) hline, if_neg hc]

/-- A lower bound begins where the blanks before it end. -/
theorem boundsAfterBlanks?_append {d : Char} {bounds : List Char × List Char} (hd : isBlank d)
    (hl : ¬ AllBlank lower) (h : bounds? (trimStart lower ++ rest) = some bounds) :
    boundsAfterBlanks? (d :: (lower ++ rest)) = some bounds := by
  induction lower generalizing d with
  | nil => exact (hl (List.forall_mem_nil _)).elim
  | cons c lower ih =>
    by_cases hc : isBlank c
    · have hlower : ¬ AllBlank lower := fun hb => hl (List.forall_mem_cons.mpr ⟨hc, hb⟩)
      rw [trimStart_cons_of_isBlank hc] at h
      rw [List.cons_append, boundsAfterBlanks?, if_pos hd, ih hc hlower h, Option.some_or]
    · rw [trimStart_cons_of_not_isBlank hc] at h
      rw [boundsAfterBlanks?, if_pos hd, h, List.cons_append, boundsAfterBlanks?, if_neg hc,
        Option.none_or]

end NotePlot.Clause
