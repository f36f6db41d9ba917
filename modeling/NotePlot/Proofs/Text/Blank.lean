import NotePlot.Text.Basic
import Mathlib.Data.List.DropRight
import Mathlib.Data.List.Infix
/-! Blanks: what trimming leaves of a text made of parts, and which words such a text has. -/
namespace NotePlot.Text

variable {c : Char} {cs xs ys w s : List Char}

/-- All characters of a text are blanks. -/
def AllBlank (cs : List Char) : Prop := ∀ c ∈ cs, isBlank c

/-- None of the characters of a text is a blank. -/
def NoBlank (cs : List Char) : Prop := ∀ c ∈ cs, ¬ isBlank c

instance (cs : List Char) : Decidable (AllBlank cs) := List.decidableBAll _ cs

instance (cs : List Char) : Decidable (NoBlank cs) := List.decidableBAll _ cs

@[simp] theorem isBlank_space : isBlank ' ' := rfl

theorem trimStart_eq_nil_iff : trimStart cs = [] ↔ AllBlank cs := by
  simp [trimStart, AllBlank]

theorem trimEnd_eq_nil_iff : trimEnd cs = [] ↔ AllBlank cs := List.rdropWhile_eq_nil_iff

theorem not_allBlank_append (xs : List Char) (h : ¬ AllBlank ys) : ¬ AllBlank (xs ++ ys) :=
  fun hb => h fun c hc => hb c (List.mem_append_right xs hc)

theorem not_allBlank_append_of_noBlank (h : NoBlank w) (hw : w ≠ []) (ys : List Char) :
    ¬ AllBlank (w ++ ys) := by
  cases w with
  | nil => exact (hw rfl).elim
  | cons c w => exact fun hb => h c List.mem_cons_self (hb c List.mem_cons_self)

theorem trimEnd_append (xs : List Char) (h : ¬ AllBlank ys) :
    trimEnd (xs ++ ys) = xs ++ trimEnd ys := by
  have hd : ys.reverse.dropWhile isBlank ≠ [] := by
    simpa [trimEnd] using mt trimEnd_eq_nil_iff.mp h
  simp [trimEnd, List.dropWhile_append, List.isEmpty_iff, hd]

theorem trimEnd_append_allBlank (xs : List Char) (h : AllBlank ys) :
    trimEnd (xs ++ ys) = trimEnd xs := by
  have hd : ys.reverse.dropWhile isBlank = [] := by
    simpa [trimEnd] using trimEnd_eq_nil_iff.mpr h
  simp [trimEnd, List.dropWhile_append, hd]

theorem trimEnd_cons (h : ¬ AllBlank cs) (c : Char) : trimEnd (c :: cs) = c :: trimEnd cs :=
  trimEnd_append [c] h

theorem trimEnd_cons_of_not_isBlank (h : ¬ isBlank c) : trimEnd (c :: cs) = c :: trimEnd cs := by
  by_cases hb : AllBlank cs
  · rw [trimEnd_eq_nil_iff.mpr hb]
    have ht := trimEnd_append_allBlank [c] hb
    simpa [trimEnd, h] using ht
  · exact trimEnd_cons hb c

theorem trimEnd_append_of_noBlank (h : NoBlank w) (ys : List Char) :
    trimEnd (w ++ ys) = w ++ trimEnd ys := by
  induction w with
  | nil => rfl
  | cons c w ih =>
    obtain ⟨hc, hw⟩ := List.forall_mem_cons.mp h
    simp only [List.cons_append, trimEnd_cons_of_not_isBlank hc, ih hw]

/-- A first character stays unless there are only blanks after it and it is one itself. -/
theorem trimEnd_cons_of_not_allBlank (h : ¬ AllBlank (c :: cs)) :
    trimEnd (c :: cs) = c :: trimEnd cs := by
  by_cases hc : isBlank c
  · exact trimEnd_cons (fun hb => h (List.forall_mem_cons.mpr ⟨hc, hb⟩)) c
  · exact trimEnd_cons_of_not_isBlank hc

theorem trimStart_cons_of_not_isBlank (h : ¬ isBlank c) : trimStart (c :: cs) = c :: cs :=
  List.dropWhile_cons_of_neg h

theorem trimStart_cons_of_isBlank (h : isBlank c) : trimStart (c :: cs) = trimStart cs :=
  List.dropWhile_cons_of_pos h

/-- The two ends of a text are trimmed in either order. -/
theorem trimStart_trimEnd (cs : List Char) : trimStart (trimEnd cs) = trim cs := by
  induction cs with
  | nil => rfl
  | cons c cs ih =>
    unfold trim at ih ⊢
    by_cases hc : isBlank c
    · rw [trimStart_cons_of_isBlank hc, ← ih]
      by_cases hb : AllBlank cs
      · have hcs : AllBlank (c :: cs) := List.forall_mem_cons.mpr ⟨hc, hb⟩
        rw [trimEnd_eq_nil_iff.mpr hcs, trimEnd_eq_nil_iff.mpr hb]
      · rw [trimEnd_cons hb, trimStart_cons_of_isBlank hc]
    · rw [trimStart_cons_of_not_isBlank hc, trimEnd_cons_of_not_isBlank hc,
        trimStart_cons_of_not_isBlank hc]

theorem trimStart_trimStart (cs : List Char) : trimStart (trimStart cs) = trimStart cs :=
  List.dropWhile_idempotent isBlank cs

theorem trimEnd_trimEnd (cs : List Char) : trimEnd (trimEnd cs) = trimEnd cs :=
  List.rdropWhile_idempotent isBlank cs

theorem trim_eq_nil_iff : trim cs = [] ↔ AllBlank cs := by
  rw [trim, trimEnd_eq_nil_iff, ← trimStart_eq_nil_iff, trimStart_trimStart, trimStart_eq_nil_iff]

theorem trim_trimStart (cs : List Char) : trim (trimStart cs) = trim cs := by
  rw [trim, trimStart_trimStart, trim]

theorem trim_trimEnd (cs : List Char) : trim (trimEnd cs) = trim cs := by
  rw [← trimStart_trimEnd, trimEnd_trimEnd, trimStart_trimEnd]

/-- Blanks before a text and after it go. -/
theorem trim_trim (cs : List Char) : trim (trim cs) = trim cs :=
  (trim_trimEnd _).trans (trim_trimStart cs)

theorem strip_strip (s : String) : strip (strip s) = strip s := by
  rw [strip, strip, String.toList_ofList, trim_trim]

theorem trim_cons_of_isBlank (h : isBlank c) : trim (c :: cs) = trim cs := by
  rw [trim, trimStart_cons_of_isBlank h, trim]

theorem trimStart_append_of_noBlank (h : NoBlank w) (hw : w ≠ []) :
    trimStart (w ++ ys) = w ++ ys := by
  cases w with
  | nil => exact (hw rfl).elim
  | cons c w => exact trimStart_cons_of_not_isBlank (h c List.mem_cons_self)

theorem trim_append_of_noBlank (h : NoBlank w) (hw : w ≠ []) :
    trim (w ++ ys) = w ++ trimEnd ys := by
  rw [trim, trimStart_append_of_noBlank h hw, trimEnd_append_of_noBlank h]

theorem trim_of_noBlank (h : NoBlank w) : trim w = w := by
  cases w with
  | nil => rfl
  | cons c w =>
    have htrim : trim (c :: w ++ []) = c :: w ++ trimEnd [] :=
      trim_append_of_noBlank h (List.cons_ne_nil c w)
    rw [List.append_nil] at htrim
    exact htrim.trans (List.append_nil _)

/-- A text with something in it that neither begins nor ends with a blank. -/
def IsTidy (cs : List Char) : Prop :=
  cs ≠ [] ∧ (∀ c ∈ cs.head?, ¬ isBlank c) ∧ ∀ c ∈ cs.getLast?, ¬ isBlank c

theorem trimStart_eq_self_iff : trimStart cs = cs ↔ ∀ c ∈ cs.head?, ¬ isBlank c := by
  cases cs with
  | nil => simp [trimStart]
  | cons c cs => simp [trimStart, List.dropWhile_eq_self_iff]

theorem trimEnd_eq_self_iff : trimEnd cs = cs ↔ ∀ c ∈ cs.getLast?, ¬ isBlank c := by
  rw [← List.head?_reverse, ← trimStart_eq_self_iff]
  exact List.reverse_eq_iff

/-- Trimming changes all texts but the tidy ones and the empty one. -/
theorem isTidy_iff : IsTidy cs ↔ cs ≠ [] ∧ trim cs = cs := by
  rw [IsTidy, ← trimStart_eq_self_iff, ← trimEnd_eq_self_iff]
  constructor
  · rintro ⟨hne, hstart, hend⟩
    exact ⟨hne, by rw [trim, hstart, hend]⟩
  · rintro ⟨hne, htrim⟩
    have hstart := trimStart_trimStart (trimEnd cs)
    have hend := trimEnd_trimEnd (trimStart cs)
    rw [trimStart_trimEnd, htrim] at hstart
    rw [← trim, htrim] at hend
    exact ⟨hne, hstart, hend⟩

theorem isTidy_trim (h : ¬ AllBlank cs) : IsTidy (trim cs) :=
  isTidy_iff.mpr ⟨mt trim_eq_nil_iff.mp h, trim_trim cs⟩

theorem IsTidy.not_allBlank (h : IsTidy cs) : ¬ AllBlank cs := by
  obtain ⟨hne, htrim⟩ := isTidy_iff.mp h
  rw [← trim_eq_nil_iff, htrim]
  exact hne

/-- A class of characters takes exactly the part of a text that it holds, if what stands after it
begins with none of the class. -/
theorem takeWhile_dropWhile_of_head {p : Char → Bool} (hin : ∀ c ∈ xs, p c)
    (hout : ∀ c ∈ ys.head?, ¬ p c) :
    (xs ++ ys).takeWhile p = xs ∧ (xs ++ ys).dropWhile p = ys := by
  rw [List.takeWhile_append_of_pos hin, List.dropWhile_append_of_pos hin]
  cases ys with
  | nil => exact ⟨List.append_nil xs, rfl⟩
  | cons c ys =>
    have hc : ¬ p c := hout c rfl
    rw [List.takeWhile_cons_of_neg hc, List.dropWhile_cons_of_neg hc, List.append_nil]
    exact ⟨rfl, rfl⟩

theorem takeWhile_dropWhile_append {p : Char → Bool} (hin : ∀ c ∈ left, p c)
    (hout : ∀ c ∈ w, ¬ p c) (hne : w ≠ []) (rest : List Char) :
    (left ++ (w ++ rest)).takeWhile p = left ∧ (left ++ (w ++ rest)).dropWhile p = w ++ rest := by
  cases w with
  | nil => exact (hne rfl).elim
  | cons c w =>
    refine takeWhile_dropWhile_of_head hin ?_
    rintro _ ⟨⟩
    exact hout c List.mem_cons_self

theorem firstWord_append_blank (h : isBlank c) (xs ys : List Char) :
    firstWord (xs ++ c :: ys) = ((firstWord xs).1, (firstWord xs).2 ++ words ys) := by
  induction xs with
  | nil => simp [firstWord, words, h]
  | cons x xs ih =>
    simp only [List.cons_append, firstWord, ih]
    by_cases hx : isBlank x
    · simp only [hx, if_true]
      split <;> rfl
    · simp [hx]

/-- A blank parts the words before it from those after it. -/
theorem words_append_blank (h : isBlank c) (xs ys : List Char) :
    words (xs ++ c :: ys) = words xs ++ words ys := by
  rw [words, firstWord_append_blank h]
  simp only [words]
  split <;> rfl

theorem words_append_allBlank (h : AllBlank ys) : words (xs ++ ys) = words xs := by
  induction ys generalizing xs with
  | nil => rw [List.append_nil]
  | cons c ys ih =>
    obtain ⟨hc, hys⟩ := List.forall_mem_cons.mp h
    rw [words_append_blank hc, ← List.nil_append ys, ih hys]
    exact List.append_nil _

theorem words_trimEnd (cs : List Char) : words (trimEnd cs) = words cs := by
  have hb : AllBlank (cs.rtakeWhile isBlank) := fun c hc => List.mem_rtakeWhile_imp hc
  have hcs : trimEnd cs ++ cs.rtakeWhile isBlank = cs := List.rdropWhile_append_rtakeWhile
  rw [← words_append_allBlank hb, hcs]

theorem words_allBlank_append (h : AllBlank xs) : words (xs ++ ys) = words ys := by
  induction xs with
  | nil => rfl
  | cons c xs ih =>
    obtain ⟨hc, hxs⟩ := List.forall_mem_cons.mp h
    rw [List.cons_append, words_blank_cons hc, ih hxs]

theorem words_of_noBlank (h : NoBlank w) (hw : w ≠ []) : words w = [w] := by
  have hf : firstWord w = (w, []) := by
    clear hw
    induction w with
    | nil => rfl
    | cons c w ih =>
      obtain ⟨hc, hw⟩ := List.forall_mem_cons.mp h
      simp [firstWord, ih hw, hc]
  simp [words, hf, hw]

theorem firstWord_noBlank (cs : List Char) : NoBlank (firstWord cs).1 ∧
    ∀ w ∈ (firstWord cs).2, w ≠ [] ∧ NoBlank w := by
  induction cs with
  | nil => exact ⟨by decide, fun w hw => (List.not_mem_nil hw).elim⟩
  | cons c cs ih =>
    obtain ⟨hword, hlater⟩ := ih
    unfold firstWord
    generalize firstWord cs = found at hword hlater ⊢
    obtain ⟨word, later⟩ := found
    by_cases hc : isBlank c
    · simp only [hc, if_true]
      refine ⟨by decide, ?_⟩
      split
      next => exact hlater
      next hne => exact List.forall_mem_cons.mpr ⟨⟨by simpa using hne, hword⟩, hlater⟩
    · simp only [hc, Bool.false_eq_true, if_false]
      exact ⟨List.forall_mem_cons.mpr ⟨hc, hword⟩, hlater⟩

theorem of_mem_words (h : w ∈ words cs) : w ≠ [] ∧ NoBlank w := by
  obtain ⟨hword, hlater⟩ := firstWord_noBlank cs
  unfold words at h
  generalize firstWord cs = found at hword hlater h
  obtain ⟨word, later⟩ := found
  dsimp only at h
  split at h
  next => exact hlater w h
  next hne =>
    rcases List.mem_cons.mp h with rfl | h
    · exact ⟨by simpa using hne, hword⟩
    · exact hlater w h

theorem isTidy_of_mem_words (h : w ∈ words cs) : IsTidy w := by
  obtain ⟨hne, hno⟩ := of_mem_words h
  exact isTidy_iff.mpr ⟨hne, trim_of_noBlank hno⟩

/-- A text shows words in their order, with blanks between any two of them. Blanks may stand at its
ends as well. -/
inductive ShowsWords : List (List Char) → List Char → Prop
  | none {gap : List Char} (hg : AllBlank gap) : ShowsWords [] gap
  | last {gap w : List Char} (hg : AllBlank gap) : ShowsWords [w] (gap ++ w)
  | next {gap w rest : List Char} {c : Char} {ws : List (List Char)} (hg : AllBlank gap)
      (hc : isBlank c) (h : ShowsWords ws (c :: rest)) : ShowsWords (w :: ws) (gap ++ (w ++ c :: rest))

theorem words_of_showsWords {ws : List (List Char)} (h : ShowsWords ws cs)
    (hw : ∀ w ∈ ws, w ≠ [] ∧ NoBlank w) : words cs = ws := by
  induction h with
  | @none gap hg =>
    have hblank : words ([] ++ gap) = words [] := words_append_allBlank hg
    exact hblank
  | @last gap w hg =>
    obtain ⟨hne, hno⟩ := hw w List.mem_cons_self
    rw [words_allBlank_append hg, words_of_noBlank hno hne]
  | @next gap w rest c ws hg hc _ ih =>
    obtain ⟨⟨hne, hno⟩, hws⟩ := List.forall_mem_cons.mp hw
    rw [words_allBlank_append hg, words_append_blank hc, words_of_noBlank hno hne,
      ← words_blank_cons hc, ih hws]
    rfl

theorem ShowsWords.blank_cons {ws : List (List Char)} (h : ShowsWords ws cs) (hc : isBlank c) :
    ShowsWords ws (c :: cs) := by
  cases h with
  | none hg => exact .none (List.forall_mem_cons.mpr ⟨hc, hg⟩)
  | @last gap w hg =>
    have hgap : AllBlank (c :: gap) := List.forall_mem_cons.mpr ⟨hc, hg⟩
    exact .last hgap
  | @next gap w rest d ws hg hd hrest =>
    have hgap : AllBlank (c :: gap) := List.forall_mem_cons.mpr ⟨hc, hg⟩
    exact .next hgap hd hrest

/-- After its first word, which may be empty, a text ends or goes on with a blank, from where on it
shows the later words. -/
theorem showsWords_firstWord (cs : List Char) : ∃ rest, cs = (firstWord cs).1 ++ rest ∧
    (rest = [] ∧ (firstWord cs).2 = [] ∨
      ∃ c after, rest = c :: after ∧ isBlank c ∧ ShowsWords (firstWord cs).2 rest) := by
  induction cs with
  | nil => exact ⟨[], rfl, .inl ⟨rfl, rfl⟩⟩
  | cons c cs ih =>
    obtain ⟨rest, hcs, hrest⟩ := ih
    unfold firstWord
    by_cases hc : isBlank c
    · refine ⟨c :: cs, by simp [hc], .inr ⟨c, cs, rfl, hc, ?_⟩⟩
      have hgap : AllBlank [c] := by simpa [AllBlank] using hc
      generalize firstWord cs = found at hcs hrest ⊢
      obtain ⟨word, later⟩ := found
      subst hcs
      simp only [hc, if_true]
      split
      next hempty =>
        obtain rfl := List.isEmpty_iff.mp hempty
        obtain ⟨rfl, rfl⟩ | ⟨d, after, rfl, hd, hlater⟩ := hrest
        · exact .none hgap
        · exact hlater.blank_cons hc
      next =>
        obtain ⟨rfl, rfl⟩ | ⟨d, after, rfl, hd, hlater⟩ := hrest
        · rw [List.append_nil]
          exact .last hgap
        · exact .next hgap hd hlater
    · refine ⟨rest, ?_, ?_⟩
      · simp only [hc, Bool.false_eq_true, if_false, List.cons_append, ← hcs]
      · simpa only [hc, Bool.false_eq_true, if_false] using hrest

/-- The words of a text are those that it shows. -/
theorem words_eq_iff_showsWords {ws : List (List Char)} (hw : ∀ w ∈ ws, w ≠ [] ∧ NoBlank w) :
    words cs = ws ↔ ShowsWords ws cs := by
  refine ⟨?_, fun h => words_of_showsWords h hw⟩
  rintro rfl
  obtain ⟨rest, hcs, hrest⟩ := showsWords_firstWord cs
  have hgap : AllBlank [] := fun c hc => (List.not_mem_nil hc).elim
  unfold words
  generalize firstWord cs = found at hcs hrest ⊢
  obtain ⟨word, later⟩ := found
  subst hcs
  dsimp only
  split
  next hempty =>
    obtain rfl := List.isEmpty_iff.mp hempty
    obtain ⟨rfl, rfl⟩ | ⟨c, after, rfl, hc, hlater⟩ := hrest
    · exact .none hgap
    · exact hlater
  next =>
    obtain ⟨rfl, rfl⟩ | ⟨c, after, rfl, hc, hlater⟩ := hrest
    · rw [List.append_nil]
      exact .last hgap
    · exact .next hgap hc hlater

/-- The words from a blank on are words of the whole text. -/
theorem words_subset_of_suffix (h : isBlank c) (hs : c :: s <:+ cs) :
    words (c :: s) ⊆ words cs := by
  obtain ⟨before, rfl⟩ := hs
  rw [words_blank_cons h, words_append_blank h]
  exact List.subset_append_right _ _

/-- No word holds a blank, so a part that begins with one begins after the word. -/
theorem suffix_of_suffix_append (hw : NoBlank w) (hc : isBlank c) (hs : c :: s <:+ w ++ cs) :
    c :: s <:+ cs := by
  induction w with
  | nil => exact hs
  | cons d w ih =>
    obtain ⟨hd, hw⟩ := List.forall_mem_cons.mp hw
    rcases List.suffix_cons_iff.mp hs with h | h
    · cases h
      exact (hd hc).elim
    · exact ih hw h

end NotePlot.Text
