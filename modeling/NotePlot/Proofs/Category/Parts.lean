import NotePlot.Category.Parts
import NotePlot.Proofs.Text.Blank
/-! The parts of values: what is taken for a category of its own, and what stands for none. Each
category is named by the text of an item, and categories are their own parts. -/
namespace NotePlot.Category

open Text

variable {ws : List String} {cs : List Char} {css : List (List Char)} {xs : List Value}
  {item v missing : Value} {s : String}

theorem explode_eq (v missing : Value) : explode v missing =
    if parts v = [] then [missing] else (parts v).map fun cs => .text (String.ofList cs) := by
  unfold explode
  split
  next h => rw [if_pos h]
  next ps hne => rw [if_neg hne]

/-- An item names a category by its text without the blanks around it, unless nothing is left of it.
Null names none, and neither does what has no text. -/
def Names (item : Value) (s : String) : Prop :=
  item.isNull = false ∧ ∃ t, item.plain = .ok t ∧ ¬ AllBlank t.toList ∧ s = strip t

theorem label_eq_iff (hne : cs ≠ []) :
    label item = cs ↔ ∃ t, item.plain = .ok t ∧ ¬ AllBlank t.toList ∧ cs = trim t.toList := by
  unfold label
  cases item.plain with
  | error failure => simp [hne.symm]
  | ok t =>
    simp only [Except.ok.injEq, exists_eq_left']
    constructor
    · rintro rfl
      exact ⟨mt trim_eq_nil_iff.mpr hne, rfl⟩
    · rintro ⟨-, rfl⟩
      rfl

/-- Labels are what items name. -/
theorem mem_labels_iff : cs ∈ labels xs ↔ ∃ item ∈ xs, Names item (String.ofList cs) := by
  simp only [labels, List.mem_filter, List.mem_map, Bool.not_eq_true', List.isEmpty_eq_false_iff]
  constructor
  · rintro ⟨⟨item, ⟨hmem, hnull⟩, hlabel⟩, hne⟩
    obtain ⟨t, hplain, hblank, rfl⟩ := (label_eq_iff hne).mp hlabel
    exact ⟨item, hmem, hnull, t, hplain, hblank, rfl⟩
  · rintro ⟨item, hmem, hnull, t, hplain, hblank, hs⟩
    obtain rfl : cs = trim t.toList := String.ofList_injective hs
    have hne : trim t.toList ≠ [] := mt trim_eq_nil_iff.mp hblank
    exact ⟨⟨item, ⟨hmem, hnull⟩, (label_eq_iff hne).mpr ⟨t, hplain, hblank, rfl⟩⟩, hne⟩

theorem not_names_null : ¬ Names .null s := fun h => absurd h.1 (by decide)

theorem names_text_iff {t : String} : Names (.text t) s ↔ ¬ AllBlank t.toList ∧ s = strip t := by
  constructor
  · rintro ⟨-, t', hplain, hblank, rfl⟩
    obtain rfl : t = t' := Except.ok.inj hplain
    exact ⟨hblank, rfl⟩
  · rintro ⟨hblank, rfl⟩
    exact ⟨rfl, t, rfl, hblank, rfl⟩

theorem isTidy_of_names (h : Names item s) : IsTidy s.toList := by
  obtain ⟨-, t, -, hblank, rfl⟩ := h
  rw [strip, String.toList_ofList]
  exact isTidy_trim hblank

/-- A tidy text is its own label. -/
theorem labels_of_isTidy (h : ∀ cs ∈ css, IsTidy cs) :
    labels (css.map fun cs => .text (String.ofList cs)) = css := by
  induction css with
  | nil => rfl
  | cons cs css ih =>
    obtain ⟨hcs, hcss⟩ := List.forall_mem_cons.mp h
    obtain ⟨hne, htrim⟩ := isTidy_iff.mp hcs
    have hlabel : label (.text (String.ofList cs)) = cs := by
      change trim (String.ofList cs).toList = cs
      rw [String.toList_ofList, htrim]
    have hrest := ih hcss
    unfold labels at hrest ⊢
    rw [List.map_cons, List.filter_cons_of_pos rfl, List.map_cons, hlabel,
      List.filter_cons_of_pos (by simpa using hne), hrest]

/-- Words are labels as they are. -/
theorem parts_texts (hw : ∀ w ∈ ws, w.toList ≠ [] ∧ NoBlank w.toList) :
    parts (.texts ws) = ws.map String.toList := by
  have htidy : ∀ cs ∈ ws.map String.toList, IsTidy cs := by
    intro cs hcs
    obtain ⟨w, hmem, rfl⟩ := List.mem_map.mp hcs
    obtain ⟨hne, hno⟩ := hw w hmem
    exact isTidy_iff.mpr ⟨hne, trim_of_noBlank hno⟩
  have hlabels := labels_of_isTidy htidy
  simp only [List.map_map, Function.comp_def, String.ofList_toList] at hlabels
  exact hlabels

/-- Where the categories of a value are looked for: in the items of a collection, also of one that
an object of the host can be turned into, in the words of a text, and else in the value itself. -/
def items (v : Value) : List Value :=
  match v.opened with
  | .list xs | .tuple xs | .set xs => xs
  | .scalar (.text s) => (words s.toList).map fun w => .text (String.ofList w)
  | .arrayLike _ inner =>
    match inner.opened with
    | .list xs | .tuple xs => xs
    | _ => [v]
  | _ => [v]

theorem parts_eq_labels (v : Value) : parts v = labels (items v) := by
  unfold parts items
  generalize v.opened = u
  cases u with
  | scalar k =>
    cases k with
    | text s => exact (labels_of_isTidy fun w hw => isTidy_of_mem_words hw).symm
    | _ => rfl
  | arrayLike _ inner =>
    dsimp only
    generalize inner.opened = u
    cases u <;> rfl
  | _ => rfl

theorem mem_parts_iff : cs ∈ parts v ↔ ∃ item ∈ items v, Names item (String.ofList cs) := by
  rw [parts_eq_labels, mem_labels_iff]

theorem isTidy_of_mem_parts (h : cs ∈ parts v) : IsTidy cs := by
  obtain ⟨item, -, hnames⟩ := mem_parts_iff.mp h
  have htidy := isTidy_of_names hnames
  rwa [String.toList_ofList] at htidy

theorem text_mem_explode (h : s.toList ∈ parts v) (missing : Value) :
    .text s ∈ explode v missing := by
  rw [explode_eq, if_neg (List.ne_nil_of_mem h)]
  exact List.mem_map.mpr ⟨s.toList, h, by rw [String.ofList_toList]⟩

/-- All categories but the one for missing values are parts. -/
theorem text_mem_explode_iff (h : missing ≠ .text s) :
    .text s ∈ explode v missing ↔ s.toList ∈ parts v := by
  refine ⟨fun hs => ?_, fun hs => text_mem_explode hs missing⟩
  rw [explode_eq] at hs
  split at hs
  next => exact (h (List.mem_singleton.mp hs).symm).elim
  next =>
    obtain ⟨cs, hcs, heq⟩ := List.mem_map.mp hs
    cases heq
    rwa [String.toList_ofList]

/-- Tidy texts in a list are its categories. -/
theorem explode_of_isTidy (hne : css ≠ []) (h : ∀ cs ∈ css, IsTidy cs) (missing : Value) :
    explode (.list (css.map fun cs => .text (String.ofList cs))) missing =
      css.map fun cs => .text (String.ofList cs) := by
  have hparts : parts (.list (css.map fun cs => .text (String.ofList cs))) = css :=
    labels_of_isTidy h
  rw [explode_eq, hparts, if_neg hne]

/-- The categories of any value are either the one for missing values alone or tidy texts, each of
them named by an item. No item that names a category is passed over, whatever stands beside it.
Where the one for missing values is a tidy text as well, a list of the categories has the same
categories again. -/
theorem explode_settles (v missing : Value) :
    explode v missing ≠ [] ∧
    (explode v missing = [missing] ∨ ∀ part ∈ explode v missing,
      ∃ s, part = .text s ∧ IsTidy s.toList ∧ ∃ item ∈ items v, Names item s) ∧
    (∀ item ∈ items v, ∀ s, Names item s → .text s ∈ explode v missing) ∧
    ∀ s, missing = .text s → IsTidy s.toList →
      explode (.list (explode v missing)) missing = explode v missing := by
  have htidy : ∀ cs ∈ parts v, IsTidy cs := fun cs hcs => isTidy_of_mem_parts hcs
  have hnamed : ∀ item ∈ items v, ∀ s, Names item s → .text s ∈ explode v missing := by
    intro item hitem s hnames
    apply text_mem_explode
    exact mem_parts_iff.mpr ⟨item, hitem, by rwa [String.ofList_toList]⟩
  by_cases hnone : parts v = []
  · rw [explode_eq v, if_pos hnone] at hnamed ⊢
    refine ⟨List.cons_ne_nil _ _, .inl rfl, hnamed, ?_⟩
    rintro s rfl hs
    have hagain := explode_of_isTidy (List.cons_ne_nil s.toList [])
      (List.forall_mem_singleton.mpr hs) (.text s)
    simpa only [List.map_cons, List.map_nil, String.ofList_toList] using hagain
  · rw [explode_eq v, if_neg hnone] at hnamed ⊢
    refine ⟨mt List.map_eq_nil_iff.mp hnone, .inr ?_, hnamed, ?_⟩
    · intro part hpart
      obtain ⟨cs, hcs, rfl⟩ := List.mem_map.mp hpart
      exact ⟨_, rfl, by rw [String.toList_ofList]; exact htidy cs hcs, mem_parts_iff.mp hcs⟩
    · intro s _ _
      exact explode_of_isTidy hnone htidy missing

/-- Objects of the host that are turned into no list, so that their own text counts: it has blanks
around it, is nothing but blanks, or is refused. -/
def paddedHost : Value := .arrayLike ⟨"Span", some " 3 days\n", some "Span(3)"⟩ (.scalar (.int 3))
def blankHost : Value := .arrayLike ⟨"Span", some " \t", some "Span(0)"⟩ .null
def muteHost : Value := .arrayLike ⟨"Span", none, none⟩ (.set [.text "3 days"])

/-- An object that is turned into a tuple with a text, a nested list, items that say nothing or
refuse to, and objects like those above. -/
def mixedHost : Value :=
  .arrayLike ⟨"Spans", none, none⟩ (.tuple [.text " to do\n", .null, .foreign ⟨"Span", none, none⟩,
    .list [.null, .text "x"], .list [muteHost], .text " \t", blankHost, paddedHost])

theorem explode_settles_mixedHost :
    explode mixedHost (.text "(none)") = [.text "to do", .text ",x", .text "3 days"] ∧
    explode paddedHost (.text "(none)") = [.text "3 days"] ∧
    explode blankHost (.text "(none)") = [.text "(none)"] ∧
    explode muteHost (.text "(none)") = [.text "(none)"] ∧
    IsTidy "(none)".toList ∧
    ∀ host ∈ [mixedHost, paddedHost, blankHost, muteHost],
      explode (.list (explode host (.text "(none)"))) (.text "(none)") =
        explode host (.text "(none)") := by
  have htidy : IsTidy "(none)".toList := isTidy_iff.mpr (by decide)
  refine ⟨rfl, rfl, rfl, rfl, htidy, fun host _ => ?_⟩
  obtain ⟨-, -, -, hagain⟩ := explode_settles host (.text "(none)")
  exact hagain _ rfl htidy

end NotePlot.Category
