import NotePlot.Selection.Basic
import NotePlot.Proofs.Category.Parts
/-! Tags of a note: whether they are held in a list or written in one text, they are the same words,
both where notes are selected by them and where they are counted as categories. The notes that are
found under a tag are those that count for a category of this tag. -/
namespace NotePlot.Tag

open Text

variable {ws : List String} {s t : String} {cs : List Char} {tags : List (List Char)} {v : Value}
  {xs : List Value} {props others : Properties}

theorem texts_text_cons (h : texts xs = .ok tags) (s : String) :
    texts (.text s :: xs) = .ok (s.toList :: tags) := by
  have hs : (Value.text s).display = .ok s := rfl
  rw [texts, if_neg (by simp [Value.isNull, Value.text]), hs, h]
  rfl

theorem texts_map (ws : List String) : texts (ws.map Value.text) = .ok (ws.map String.toList) := by
  induction ws with
  | nil => rfl
  | cons w ws ih => exact texts_text_cons ih w

theorem written_texts (ws : List String) : written (.texts ws) = .ok (ws.map String.toList) :=
  texts_map ws

theorem written_text (s : String) : written (.text s) = .ok (words s.toList) := rfl

/-- Nothing of a note but its tags as written decides whether it is admitted by tags. -/
theorem admits_congr (h : written (props.get "tags") = written (others.get "tags"))
    (wanted : List Value) : admits wanted props = admits wanted others := by
  simp only [admits, ofNote, h]

theorem anyAmong_texts (tags : List (List Char)) (wanted : List String) :
    anyAmong tags (wanted.map Value.text) =
      .ok (wanted.any fun t => tags.contains (normal t.toList)) := by
  induction wanted with
  | nil => rfl
  | cons t wanted ih =>
    have ht : (Value.text t).display = .ok t := rfl
    rw [List.map_cons, anyAmong, ht, List.any_cons]
    by_cases h : tags.contains (normal t.toList)
    · rw [h]
      exact if_pos h
    · rw [eq_false_of_ne_true h, Bool.false_or, ← ih]
      exact if_neg h

/-- Tags are met by a wanted one if both are the same word in normal form, and this is no empty
one. -/
def Meets (tags : List (List Char)) (wanted : String) : Prop :=
  ∃ tag ∈ tags, normal tag ≠ [] ∧ normal tag = normal wanted.toList

/-- A wanted tag is among the tags of a note in normal form just if it meets them. -/
theorem normal_mem_iff {wanted : String} :
    normal wanted.toList ∈ (tags.map normal).filter (!·.isEmpty) ↔ Meets tags wanted := by
  simp only [List.mem_filter, List.mem_map, Meets, Bool.not_eq_true', List.isEmpty_eq_false_iff]
  constructor
  · rintro ⟨⟨tag, htag, hsame⟩, hne⟩
    exact ⟨tag, htag, hsame ▸ hne, hsame⟩
  · rintro ⟨tag, htag, hne, hsame⟩
    exact ⟨⟨tag, htag, hsame⟩, hsame ▸ hne⟩

/-- A note without tags is admitted as if none of the wanted texts were found among its tags. -/
theorem admits_texts {found : List (List Char)} (h : ofNote props = .ok found)
    (wanted : List String) : admits (wanted.map Value.text) props =
      .ok (wanted.isEmpty || wanted.any fun t => found.contains (normal t.toList)) := by
  cases wanted with
  | nil => rfl
  | cons t rest =>
    have hany : admits ((t :: rest).map Value.text) props =
        if found.isEmpty then .ok false else anyAmong found ((t :: rest).map Value.text) := by
      rw [admits, h]
      rfl
    rw [hany, anyAmong_texts]
    split
    next hempty =>
      rw [List.isEmpty_iff.mp hempty]
      simp
    next => rfl

/-- Among wanted texts one has to meet the tags of a note, unless there are none. -/
theorem exists_admits (h : written (props.get "tags") = .ok tags) (wanted : List String) :
    ∃ b, admits (wanted.map Value.text) props = .ok b ∧
      (b = true ↔ wanted = [] ∨ ∃ t ∈ wanted, Meets tags t) := by
  have hnote : ofNote props = .ok ((tags.map normal).filter (!·.isEmpty)) := by
    rw [ofNote, h]
    rfl
  refine ⟨_, admits_texts hnote wanted, ?_⟩
  rw [Bool.or_eq_true, List.isEmpty_iff, List.any_eq_true]
  simp only [List.contains_iff_mem, normal_mem_iff]

/-- Words that are held in a list and the same words in one text, with blanks between them, are the
same tags: any wanted tags admit both notes or neither, and do so if one of them meets the words. As
categories both are the words, and without a word both are what stands for missing values. -/
theorem admits_explode_of_showsWords (hw : ∀ w ∈ ws, w.toList ≠ [] ∧ NoBlank w.toList)
    (hs : ShowsWords (ws.map String.toList) s.toList) (hlist : props.get "tags" = .texts ws)
    (htext : others.get "tags" = .text s) :
    (∀ wanted : List Value, admits wanted props = admits wanted others) ∧
    (∀ wanted : List String, ∃ b, admits (wanted.map Value.text) props = .ok b ∧
      (b = true ↔ wanted = [] ∨ ∃ t ∈ wanted, Meets (ws.map String.toList) t)) ∧
    ∀ missing, Category.explode (.texts ws) missing = Category.explode (.text s) missing ∧
      Category.explode (.texts ws) missing = if ws = [] then [missing] else ws.map Value.text := by
  have hwords : words s.toList = ws.map String.toList := by
    refine words_of_showsWords hs fun w h => ?_
    obtain ⟨w, hmem, rfl⟩ := List.mem_map.mp h
    exact hw w hmem
  have hsame : written (props.get "tags") = written (others.get "tags") := by
    rw [hlist, htext, written_texts, written_text, hwords]
  have htags : written (props.get "tags") = .ok (ws.map String.toList) := by
    rw [hlist, written_texts]
  have hparts := Category.parts_texts hw
  have htextParts : Category.parts (.text s) = ws.map String.toList := hwords
  refine ⟨admits_congr hsame, exists_admits htags, fun missing => ⟨?_, ?_⟩⟩
  · rw [Category.explode_eq, Category.explode_eq, hparts, htextParts]
  · simp only [Category.explode_eq, hparts, List.map_eq_nil_iff, List.map_map, Function.comp_def,
      String.ofList_toList]

/-- Three tags in two lines, one of them written twice, and a wanted tag that is written in another
way. -/
theorem admits_explode_of_showsWords_project :
    (∀ w ∈ ["#work", "home", "#work"], w.toList ≠ [] ∧ NoBlank w.toList) ∧
    ShowsWords (["#work", "home", "#work"].map String.toList) " #work\n\thome #work ".toList ∧
    admits [.text " ##work"] [("tags", .texts ["#work", "home", "#work"])] =
      admits [.text " ##work"] [("tags", .text " #work\n\thome #work ")] ∧
    admits [.text " ##work"] [("tags", .texts ["#work", "home", "#work"])] = .ok true ∧
    Category.explode (.text " #work\n\thome #work ") .null =
      [.text "#work", .text "home", .text "#work"] := by
  have hw : ∀ w ∈ ["#work", "home", "#work"], w.toList ≠ [] ∧ NoBlank w.toList := by
    simp only [List.forall_mem_cons]
    exact ⟨by decide, by decide, by decide, fun _ h => (List.not_mem_nil h).elim⟩
  have hwords : ∀ w ∈ ["#work", "home", "#work"].map String.toList, w ≠ [] ∧ NoBlank w := by
    simpa using hw
  have hs : ShowsWords (["#work", "home", "#work"].map String.toList)
      " #work\n\thome #work ".toList := (words_eq_iff_showsWords hwords).mp (by decide)
  have hlist : Properties.get [("tags", .texts ["#work", "home", "#work"])] "tags" =
    .texts ["#work", "home", "#work"] := rfl
  have htext : Properties.get [("tags", .text " #work\n\thome #work ")] "tags" =
    .text " #work\n\thome #work " := rfl
  obtain ⟨hsame, hwanted, hcategories⟩ := admits_explode_of_showsWords hw hs hlist htext
  obtain ⟨hexplode, hlabels⟩ := hcategories .null
  obtain ⟨b, hb, hmeets⟩ := hwanted [" ##work"]
  have hfound : b = true := hmeets.mpr (.inr ⟨_, List.mem_cons_self, _, List.mem_cons_self,
    by decide, by decide⟩)
  exact ⟨hw, hs, hsame _, hfound ▸ hb, hexplode.symm.trans hlabels⟩

/-- Tags as texts: none at all, the words of one text, or a collection of texts in which there may
be null as well. -/
inductive HoldsTexts : Value → Prop
  | null : HoldsTexts .null
  | text (s : String) : HoldsTexts (.text s)
  | list {xs : List Value} (h : ∀ x ∈ xs, x = .null ∨ ∃ s, x = .text s) : HoldsTexts (.list xs)
  | tuple {xs : List Value} (h : ∀ x ∈ xs, x = .null ∨ ∃ s, x = .text s) : HoldsTexts (.tuple xs)
  | set {xs : List Value} (h : ∀ x ∈ xs, x = .null ∨ ∃ s, x = .text s) : HoldsTexts (.set xs)

/-- The texts of items and the labels of the same items are the same but for blanks. -/
theorem exists_texts (h : ∀ x ∈ xs, x = .null ∨ ∃ s, x = .text s) : ∃ tags, texts xs = .ok tags ∧
    ∀ cs, cs ∈ Category.labels xs ↔ ∃ tag ∈ tags, ¬ AllBlank tag ∧ cs = trim tag := by
  induction xs with
  | nil => exact ⟨[], rfl, by simp [Category.labels]⟩
  | cons x xs ih =>
    obtain ⟨hx, hxs⟩ := List.forall_mem_cons.mp h
    obtain ⟨tags, htexts, hlabels⟩ := ih hxs
    simp only [Category.mem_labels_iff] at hlabels ⊢
    rcases hx with rfl | ⟨s, rfl⟩
    · refine ⟨tags, htexts, fun cs => ?_⟩
      simp only [List.mem_cons, exists_eq_or_imp, Category.not_names_null, false_or, hlabels]
    · refine ⟨s.toList :: tags, texts_text_cons htexts s, fun cs => ?_⟩
      simp only [List.mem_cons, exists_eq_or_imp, Category.names_text_iff, hlabels, strip,
        String.ofList_inj]

/-- The tags of a value as written and its parts as categories are the same but for blanks. -/
theorem exists_written (h : HoldsTexts v) : ∃ tags, written v = .ok tags ∧
    ∀ cs, cs ∈ Category.parts v ↔ ∃ tag ∈ tags, ¬ AllBlank tag ∧ cs = trim tag := by
  cases h with
  | null =>
    have hnone : Category.parts .null = [] := rfl
    exact ⟨[], rfl, by simp [hnone]⟩
  | text s =>
    refine ⟨words s.toList, rfl, fun cs => ?_⟩
    change cs ∈ words s.toList ↔ _
    constructor
    · intro hcs
      have htidy := isTidy_of_mem_words hcs
      exact ⟨cs, hcs, htidy.not_allBlank, (isTidy_iff.mp htidy).2.symm⟩
    · rintro ⟨tag, htag, -, rfl⟩
      rwa [(isTidy_iff.mp (isTidy_of_mem_words htag)).2]
  | list h | tuple h | set h => exact exists_texts h

theorem normal_trim (cs : List Char) : normal (trim cs) = normal cs := by
  rw [normal, trim_trim, normal]

/-- Blanks around a tag do not matter to what it meets, and a tag of blanks alone meets nothing. -/
theorem meets_iff (ht : normal t.toList ≠ []) (h : ∀ cs, cs ∈ Category.parts v ↔
      ∃ tag ∈ tags, ¬ AllBlank tag ∧ cs = trim tag) :
    Meets tags t ↔ ∃ part ∈ Category.parts v, normal part = normal t.toList := by
  constructor
  · rintro ⟨tag, htag, hne, hsame⟩
    have hblank : ¬ AllBlank tag := by
      intro hb
      rw [normal, trim_eq_nil_iff.mpr hb] at hne
      exact hne rfl
    exact ⟨trim tag, (h _).mpr ⟨tag, htag, hblank, rfl⟩, (normal_trim tag).trans hsame⟩
  · rintro ⟨part, hpart, hsame⟩
    obtain ⟨tag, htag, -, rfl⟩ := (h part).mp hpart
    rw [normal_trim] at hsame
    exact ⟨tag, htag, hsame ▸ ht, hsame⟩

/-- What has a normal form of its own is a part just if it is a category, as what stands for missing
values has none. -/
theorem exists_part_iff (hne : cs ≠ []) : (∃ part ∈ Category.parts v, normal part = cs) ↔
    ∃ s : String, .text s ∈ Category.explode v (.text "") ∧ normal s.toList = cs := by
  have hmem : ∀ s : String, normal s.toList = cs →
      (.text s ∈ Category.explode v (.text "") ↔ s.toList ∈ Category.parts v) := by
    intro s hs
    apply Category.text_mem_explode_iff
    rintro ⟨⟩
    exact hne hs.symm
  constructor
  · rintro ⟨part, hpart, hsame⟩
    have hback : (String.ofList part).toList = part := String.toList_ofList
    rw [← hback] at hpart hsame
    exact ⟨String.ofList part, (hmem _ hsame).mpr hpart, hsame⟩
  · rintro ⟨s, hs, hsame⟩
    exact ⟨s.toList, (hmem s hsame).mp hs, hsame⟩

theorem exists_admits_one (h : written (props.get "tags") = .ok tags) (t : String) :
    ∃ b, admits [.text t] props = .ok b ∧ (b = true ↔ Meets tags t) := by
  obtain ⟨b, hb, hmeets⟩ := exists_admits h [t]
  exact ⟨b, hb, hmeets.trans (by simp)⟩

/-- Notes whose tags are texts are found under a wanted tag just if a category of their tags is the
same word in normal form. Of several wanted tags one is enough. -/
theorem admits_iff_category (hv : HoldsTexts v) (hp : props.get "tags" = v) :
    (∀ t : String, normal t.toList ≠ [] → ∃ b, admits [.text t] props = .ok b ∧
      (b = true ↔ ∃ s : String, .text s ∈ Category.explode v (.text "") ∧
        normal s.toList = normal t.toList)) ∧
    ∀ wanted : List String, wanted ≠ [] → ∃ b, admits (wanted.map Value.text) props = .ok b ∧
      (b = true ↔ ∃ t ∈ wanted, admits [.text t] props = .ok true) := by
  obtain ⟨tags, hwritten, hparts⟩ := exists_written hv
  have htags : written (props.get "tags") = .ok tags := by rw [hp, hwritten]
  constructor
  · intro t ht
    obtain ⟨b, hb, hmeets⟩ := exists_admits_one htags t
    exact ⟨b, hb, hmeets.trans ((meets_iff ht hparts).trans (exists_part_iff ht))⟩
  · intro wanted hne
    obtain ⟨b, hb, hmeets⟩ := exists_admits htags wanted
    refine ⟨b, hb, ?_⟩
    rw [hmeets, or_iff_right hne]
    refine exists_congr fun t => and_congr_right fun _ => ?_
    obtain ⟨b', hb', hone⟩ := exists_admits_one htags t
    rw [hb', ← hone, Except.ok.injEq]

/-- Tags in a tuple, among them null, blanks, a hash sign alone, and one of two words. -/
def looseTags : Value :=
  .tuple [.text " ##work\n", .null, .text "#", .text " \t", .text "at home"]

theorem admits_iff_category_looseTags :
    HoldsTexts looseTags ∧ normal "work".toList ≠ [] ∧ normal "#home".toList ≠ [] ∧
    admits [.text "work"] [("tags", looseTags)] = .ok true ∧
    admits [.text "#home"] [("tags", looseTags)] = .ok false ∧
    admits [.text "#home", .text "work"] [("tags", looseTags)] = .ok true := by
  have hv : HoldsTexts looseTags := by
    apply HoldsTexts.tuple
    simp only [List.forall_mem_cons, List.not_mem_nil, false_implies, implies_true, and_true]
    exact ⟨.inr ⟨_, rfl⟩, .inl trivial, .inr ⟨_, rfl⟩, .inr ⟨_, rfl⟩, .inr ⟨_, rfl⟩⟩
  have hp : Properties.get [("tags", looseTags)] "tags" = looseTags := rfl
  have hwork : normal "work".toList ≠ [] := by decide
  have hhome : normal "#home".toList ≠ [] := by decide
  have hcategories : Category.explode looseTags (.text "") =
    [.text "##work", .text "#", .text "at home"] := rfl
  obtain ⟨hone, hmany⟩ := admits_iff_category hv hp
  obtain ⟨b, hb, hfound⟩ := hone "work" hwork
  obtain ⟨b', hb', hfound'⟩ := hone "#home" hhome
  obtain ⟨b'', hb'', hsome⟩ := hmany ["#home", "work"] (List.cons_ne_nil _ _)
  rw [hcategories] at hfound hfound'
  obtain rfl : b = true := hfound.mpr ⟨"##work", List.mem_cons_self, by decide⟩
  obtain rfl : b'' = true := hsome.mpr ⟨"work", List.mem_cons_of_mem _ List.mem_cons_self, hb⟩
  obtain rfl : b' = false := by
    refine eq_false_of_ne_true fun htrue => ?_
    obtain ⟨s, hs, hsame⟩ := hfound'.mp htrue
    simp only [Value.text, List.mem_cons, Value.scalar.injEq, Scalar.text.injEq, List.not_mem_nil,
      or_false] at hs
    rcases hs with rfl | rfl | rfl <;> exact absurd hsame (by decide)
  exact ⟨hv, hwork, hhome, hb, hb', hb''⟩

end NotePlot.Tag
