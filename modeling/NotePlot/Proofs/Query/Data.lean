import NotePlot.Proofs.Clause.Condition
import NotePlot.Proofs.Value.Reading
import NotePlot.Proofs.Selection.Passing
/-! Queries over data. What a note holds keeps no query from its answer: a value that says nothing
of use leaves its note out. Only amounts beyond every double, or with too many digits to be written,
are not taken so lightly. -/
namespace NotePlot.Engine

open Outcome

variable {request : Request} {source : Source} {notes : List Note} {now : Value}
  {phrases : Phrases}

/-- The charts that have a result without any note have their settings in order. -/
theorem failsOnly_settings {P : Failure → Prop} {e : Engine} {c : Chart} {r : Result}
    (h : e.resultOf c [] = .ok r) (hc : c.isPlotted) :
    FailsOnly P (Category.isExploded c (e.settings .explodeChartTypes)) ∧
      FailsOnly P (Window.check c (e.settings .transformChartTypes)) := by
  obtain ⟨htable, hgantt, hmetric⟩ := of_decide_eq_true hc
  unfold resultOf at h
  split at h
  next ht => exact (hgantt ht).elim
  next ht => exact (htable ht).elim
  next ht => exact (hmetric ht).elim
  next =>
    obtain ⟨rows, hrows, -⟩ := bind_eq_ok.mp h
    obtain ⟨exploded, hexploded, hpoints⟩ := bind_eq_ok.mp hrows
    obtain ⟨_, hcheck, -⟩ := bind_eq_ok.mp hpoints
    exact ⟨failsOnly_of_ok hexploded, failsOnly_of_ok hcheck⟩

/-- A request that is answered without any note, and that wishes no running means, fails on notes
for their values alone. -/
theorem failsOnly_answer {P : Failure → Prop}
    (hempty : ∃ r, (usual phrases).answer (.index .empty) now request = .ok r)
    (hrolling : ∀ c, request.chartOf = .ok c → c.aggregation.rolling.isSet = false)
    (hs : source.snapshot = .ok notes) (hn : ∀ note ∈ notes, note.properties.ResistOnly phrases P) :
    FailsOnly P ((usual phrases).answer source now request) := by
  obtain ⟨r, hempty⟩ := hempty
  rw [answer_eq] at hempty ⊢
  obtain ⟨⟨c, ks⟩, hready, hempty⟩ := bind_eq_ok.mp hempty
  obtain ⟨hc, -, hks⟩ := readied_eq_ok_iff.mp hready
  have hread := Clause.isRead_of_readAll hks
  have hrun (rows : List (Row Float)) : FailsOnly P (c.run rows) := by
    rw [Chart.run, if_neg (ne_true_of_eq_false (hrolling c hc))]
    exact failsOnly_ok _
  have hfolder (path : String) :
      FailsOnly P (Folder.admitsBy ((usual phrases).selection c.feed ks).folders path) := by
    unfold selection
    dsimp only
    split
    · exact failsOnly_ok _
    · exact failsOnly_of_ok (Folder.admitsBy_texts _ _)
  have htag : ∀ v ∈ ((usual phrases).selection c.feed ks).tags, FailsOnly P v.display := by
    intro v hv
    obtain ⟨tag, -, rfl⟩ := List.mem_map.mp hv
    exact failsOnly_of_ok (show (Value.text tag).display = .ok tag from rfl)
  refine failsOnly_bind_of_ok hready (failsOnly_bind_of_ok hs ?_)
  refine failsOnly_bind (Selection.failsOnly_filter hn hfolder htag fun k hk _ hp =>
    Condition.failsOnly_of_isRead (hread k hk) hp) fun passed hpassed => ?_
  have hin : ∀ note ∈ passed, note.properties.ResistOnly phrases P := by
    obtain ⟨-, rfl⟩ := Selection.filter_eq_ok_iff.mp hpassed
    exact fun note hmem => hn note (List.mem_filter.mp hmem).1
  exact failsOnly_resultOf hin (failsOnly_ok _) (failsOnly_ok _) (failsOnly_settings hempty) hrun

/-- On notes that hold data, with phrases that the reader of dates can tell to be dates or not, a
request that is answered without any note is answered, if none of their amounts is too large: no
integer and no numeral in base sixteen that is read as a number lies beyond all doubles, and no
integer has too many digits to be written. If the query fails, then for a value with such an amount.
-/
theorem answer_of_data (hempty : ∃ r, (usual phrases).answer (.index .empty) now request = .ok r)
    (hrolling : ∀ c, request.chartOf = .ok c → c.aggregation.rolling.isSet = false)
    (hs : source.snapshot = .ok notes)
    (hdata : ∀ note ∈ notes, ∀ p ∈ note.properties,
      p.2.IsData ∧ p.2.first.moment phrases ≠ .error .amountTooLarge) :
    ((∀ note ∈ notes, ∀ p ∈ note.properties, p.2.IsModerate) →
      ∃ r, (usual phrases).answer source now request = .ok r) ∧
    ∀ failure, (usual phrases).answer source now request = .error failure →
      ∃ note ∈ notes, ∃ p ∈ note.properties, p.2.Defies failure := by
  have hfails : FailsOnly (fun failure => ∃ note ∈ notes, ∃ p ∈ note.properties, p.2.Defies failure)
      ((usual phrases).answer source now request) := by
    refine failsOnly_answer hempty hrolling hs ?_
    rintro note hn failure ⟨p, hp, hr⟩
    obtain ⟨hd, hm⟩ := hdata note hn p hp
    exact ⟨note, hn, p, hp, hd.defies hm hr⟩
  refine ⟨fun hmoderate => hfails.exists_ok ?_, hfails⟩
  rintro failure ⟨note, hn, p, hp, hr⟩
  exact (hmoderate note hn p hp).not_defies hr

/-- Bars of one property over another. -/
def amountBars : Chart where
  type := .bar
  feed := ⟨[], [], []⟩
  encoding := { x := FieldName.of? "x", y := FieldName.of? "y" }
  aggregation := ⟨none, false, .null, none⟩
  direction := .ascending
  title := ""
  explode := none
  bucket := .none

theorem answer_amountBars_empty (phrases : Phrases) :
    (usual phrases).answer (.index .empty) .null (.chart amountBars) =
      .ok ⟨[], amountBars.encoding.x, amountBars.encoding.y⟩ := rfl

/-- Notes with a word, a mapping, and an amount of three hundred digits where numbers are wanted. -/
def mixedNotes : List Note :=
  [⟨"a.md", [("y", .text "none")]⟩, ⟨"b.md", [("y", .map [(.int 7, .list [.null])])]⟩,
    ⟨"c.md", [("y", .scalar (.int (Nat.pow 10 300)))]⟩]

theorem answer_of_data_mixedNotes :
    (∃ r, (usual (.ofYear 2024)).answer (.index .empty) .null (.chart amountBars) = .ok r) ∧
    (∀ c, (Request.chart amountBars).chartOf = .ok c → c.aggregation.rolling.isSet = false) ∧
    (Source.index ⟨mixedNotes, by decide⟩).snapshot = .ok mixedNotes ∧
    (∀ note ∈ mixedNotes, ∀ p ∈ note.properties,
      p.2.IsData ∧ p.2.first.moment (.ofYear 2024) ≠ .error .amountTooLarge) ∧
    (∀ note ∈ mixedNotes, ∀ p ∈ note.properties, p.2.IsModerate) ∧
    ∃ r, (usual (.ofYear 2024)).answer (.index ⟨mixedNotes, by decide⟩) .null
      (.chart amountBars) = .ok r := by
  have hempty : ∃ r, (usual (.ofYear 2024)).answer (.index .empty) .null (.chart amountBars) =
    .ok r := ⟨_, answer_amountBars_empty _⟩
  have hrolling : ∀ c, (Request.chart amountBars).chartOf = .ok c →
      c.aggregation.rolling.isSet = false := by
    rintro c ⟨⟩
    rfl
  have hs : (Source.index ⟨mixedNotes, by decide⟩).snapshot = .ok mixedNotes := rfl
  have hdata : ∀ note ∈ mixedNotes, ∀ p ∈ note.properties,
      p.2.IsData ∧ p.2.first.moment (.ofYear 2024) ≠ .error .amountTooLarge := by
    have hlist : (Value.list [.null]).IsData := .list (List.forall_mem_singleton.mpr (.scalar _))
    have hword : (Value.text "none").moment (.ofYear 2024) ≠ .error .amountTooLarge :=
      ne_error_of_failure? (by decide +kernel)
    simp only [mixedNotes, List.forall_mem_cons, List.not_mem_nil, false_implies, implies_true,
      and_true]
    exact ⟨⟨.scalar _, hword⟩, ⟨.map (List.forall_mem_singleton.mpr hlist), nofun⟩,
      .scalar _, nofun⟩
  have hmoderate : ∀ note ∈ mixedNotes, ∀ p ∈ note.properties, p.2.IsModerate := by
    simp only [mixedNotes, List.forall_mem_cons, List.not_mem_nil, false_implies, implies_true,
      and_true]
    refine ⟨?_, ?_, ?_⟩
    · have hword : ¬ Numeral.IsTooLarge (Text.trim ('n' :: "one".toList)) :=
        Numeral.not_isTooLarge_cons (by decide) (by decide)
      exact Value.isModerate_scalar hword rfl
    · refine ⟨id, id, fun hl => ?_⟩
      cases hl with
      | key he hk =>
        obtain rfl := List.mem_singleton.mp he
        exact absurd hk (by decide +kernel)
      | entry he hl =>
        obtain rfl := List.mem_singleton.mp he
        cases hl with
        | list hx hl =>
          obtain rfl := List.mem_singleton.mp hx
          cases hl with
          | scalar hnull => cases hnull
    · have hamount : ¬ IsBeyondDoubles (Nat.pow 10 300) := by decide +kernel
      exact Value.isModerate_scalar hamount (by decide +kernel)
  obtain ⟨answered, -⟩ := answer_of_data hempty hrolling hs hdata
  exact ⟨hempty, hrolling, hs, hdata, hmoderate, answered hmoderate⟩

/-- An amount of four hundred digits. -/
def hugeNote : Note := ⟨"a.md", [("x", .text "p"), ("y", .scalar (.int (Nat.pow 10 400)))]⟩

/-- A single note with an amount that is too large keeps a chart of all notes from being drawn. -/
theorem answer_hugeNote :
    (usual (.ofYear 2024)).answer (.index .empty) .null (.chart amountBars) =
      .ok ⟨[], amountBars.encoding.x, amountBars.encoding.y⟩ ∧
    amountBars.aggregation.rolling.isSet = false ∧
    (∀ p ∈ hugeNote.properties,
      p.2.IsData ∧ p.2.first.moment (.ofYear 2024) ≠ .error .amountTooLarge) ∧
    (usual (.ofYear 2024)).answer (.index ⟨[hugeNote], by decide⟩) .null (.chart amountBars) =
      .error .overflow := by
  refine ⟨answer_amountBars_empty _, rfl, ?_, failure?_eq_some_iff.mp (by decide +kernel)⟩
  have hword : (Value.text "p").moment (.ofYear 2024) ≠ .error .amountTooLarge :=
    ne_error_of_failure? (by decide +kernel)
  simp only [hugeNote, List.forall_mem_cons, List.not_mem_nil, false_implies, implies_true,
    and_true]
  exact ⟨⟨.scalar _, hword⟩, .scalar _, nofun⟩

end NotePlot.Engine
