import NotePlot.Selection.Basic
import Mathlib.Data.List.DropRight
/-! Folders hold paths by whole segments: a path lies in a folder if it begins with the segments of
the folder, and not if its text merely begins with that of the folder. -/
namespace NotePlot.Folder

variable {root path : List Char} {folder : String}

/-- The parts of a path between its slashes, which may be empty. -/
def segments (path : List Char) : List (List Char) := path.splitOn '/'

/-- Parts that are put together in two steps meet at one more separator. -/
theorem intercalate_append {sep : List Char} {xs ys : List (List Char)} (hx : xs ≠ [])
    (hy : ys ≠ []) :
    sep.intercalate (xs ++ ys) = sep.intercalate xs ++ (sep ++ sep.intercalate ys) := by
  induction xs with
  | nil => exact (hx rfl).elim
  | cons x xs ih =>
    by_cases hxs : xs = []
    · subst hxs
      rw [List.singleton_append, List.intercalate_cons_of_ne_nil hy, List.intercalate_singleton,
        List.append_assoc]
    · have hne : xs ++ ys ≠ [] := List.append_ne_nil_of_left_ne_nil hxs ys
      rw [List.cons_append, List.intercalate_cons_of_ne_nil hne, ih hxs,
        List.intercalate_cons_of_ne_nil hxs]
      simp only [List.append_assoc]

/-- A path begins with the segments of another one if it is the same, or if it goes on with a slash
after it. -/
theorem segments_prefix_iff :
    segments root <+: segments path ↔ path = root ∨ root ++ ['/'] <+: path := by
  have joined (p : List Char) : ['/'].intercalate (segments p) = p := List.intercalate_splitOn '/'
  constructor
  · rintro ⟨more, hmore⟩
    have hpath := joined path
    rw [← hmore] at hpath
    by_cases hnil : more = []
    · rw [hnil, List.append_nil, joined] at hpath
      exact .inl hpath.symm
    · have hroot : segments root ≠ [] := List.splitOn_ne_nil '/' root
      rw [intercalate_append hroot hnil, joined] at hpath
      exact .inr ⟨['/'].intercalate more, by rw [← hpath, List.append_assoc]⟩
  · rintro (rfl | ⟨rest, rfl⟩)
    · exact List.prefix_rfl
    · refine ⟨segments rest, ?_⟩
      rw [List.append_assoc, List.singleton_append]
      exact (List.splitOn_append_cons_self root rest).symm

theorem covers_iff {path : String} : covers folder path ↔
    folder = "." ∨ segments (bare folder.toList) <+: segments path.toList := by
  simp only [covers, Bool.or_eq_true, decide_eq_true_eq, beq_iff_eq, List.isPrefixOf_iff_prefix,
    segments_prefix_iff]

/-- The path of a folder lies in the folder, with any slashes at its end. -/
theorem covers_self (folder : String) : covers folder folder := by
  refine covers_iff.mpr (.inr (segments_prefix_iff.mpr ?_))
  have hparts : bare folder.toList ++ folder.toList.rtakeWhile (· = '/') = folder.toList :=
    List.rdropWhile_append_rtakeWhile
  cases hslashes : folder.toList.rtakeWhile (· = '/') with
  | nil =>
    rw [hslashes, List.append_nil] at hparts
    exact .inl hparts.symm
  | cons c rest =>
    have hc : c ∈ folder.toList.rtakeWhile (· = '/') := hslashes ▸ List.mem_cons_self
    have hslash := List.mem_rtakeWhile_imp hc
    obtain rfl : c = '/' := of_decide_eq_true hslash
    rw [hslashes] at hparts
    exact .inr ⟨rest, by rw [List.append_assoc]; exact hparts⟩

/-- A sibling of a folder, whose name is that of the folder and more, does not lie in it. -/
theorem not_covers_sibling {c : Char} (hdot : folder ≠ ".") (hc : c ≠ '/') (rest : List Char) :
    ¬ covers folder (String.ofList (bare folder.toList ++ c :: rest)) := by
  rw [covers_iff, String.toList_ofList, segments_prefix_iff]
  rintro (rfl | hsame | ⟨more, hmore⟩)
  · exact hdot rfl
  · exact List.cons_ne_nil c rest (List.append_right_eq_self.mp hsame)
  · rw [List.append_assoc, List.append_cancel_left_eq] at hmore
    exact hc (List.cons.inj hmore).1.symm

/-- Some folders, of which there is one at least, admit just the paths that begin with the segments
of one of them, slashes at its end apart. The folder "." admits everything, and any folder its own
path. No other folder admits a sibling whose name only begins like its own. -/
theorem admits_iff_segments {folders : List String} (hne : folders ≠ []) (path : String) :
    admitsBy (.texts folders) path = .ok (admits folders path) ∧
    (admits folders path ↔ "." ∈ folders ∨
      ∃ q ∈ folders, segments (bare q.toList) <+: segments path.toList) ∧
    (path ∈ folders → admits folders path) ∧
    ∀ (q : String) (c : Char) (rest : List Char), q ≠ "." → c ≠ '/' →
      admits [q] (String.ofList (bare q.toList ++ c :: rest)) = false := by
  have hany (p : String) : admits folders p ↔ ∃ q ∈ folders, covers q p := by
    simp [admits, hne]
  refine ⟨admitsBy_texts path folders, ?_, ?_, ?_⟩
  · rw [hany]
    constructor
    · rintro ⟨q, hq, h⟩
      obtain rfl | h := covers_iff.mp h
      · exact .inl hq
      · exact .inr ⟨q, hq, h⟩
    · rintro (hdot | ⟨q, hq, h⟩)
      · exact ⟨".", hdot, covers_iff.mpr (.inl rfl)⟩
      · exact ⟨q, hq, covers_iff.mpr (.inr h)⟩
  · exact fun hself => (hany path).mpr ⟨path, hself, covers_self path⟩
  · intro q c rest hdot hc
    simpa [admits] using not_covers_sibling hdot hc rest

/-- A folder with slashes at its end holds what is under it, but no folder beside it. -/
theorem admits_iff_segments_work :
    ["Home", "Work//"] ≠ [] ∧ admits ["Home", "Work//"] "Work/2024/plan.md" ∧
      admits ["Home", "Work//"] "Work//" ∧ ¬ admits ["Home", "Work//"] "Workshop/plan.md" ∧
      admits ["Work//"] "Workshop/plan.md" = false := by
  have hne : ["Home", "Work//"] ≠ [] := List.cons_ne_nil _ _
  obtain ⟨-, hunder, -, -⟩ := admits_iff_segments hne "Work/2024/plan.md"
  obtain ⟨-, -, hself, -⟩ := admits_iff_segments hne "Work//"
  obtain ⟨-, hbeside, -, sibling⟩ := admits_iff_segments hne "Workshop/plan.md"
  refine ⟨hne, ?_, hself (by simp), ?_, sibling "Work//" 's' "hop/plan.md".toList (by decide) (by decide)⟩
  · exact hunder.mpr (.inr ⟨"Work//", by simp, by decide⟩)
  · rw [hbeside]
    decide

end NotePlot.Folder
