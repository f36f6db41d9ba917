import NotePlot.Proofs.Plot.Day
import NotePlot.Proofs.Plot.Notes

/-! Days as buckets: a chart whose days are buckets has the points of one without buckets, as long
as the texts on its x axis write their days in ASCII with four digits for the year. -/
namespace NotePlot

open Text Observation

variable {b b' : Bucket} {v : Value} {d : Date} {c c' : Chart} {style : PlotStyle} {note : Note}
  {notes : List Note} {vs : List Value}

/-- The buckets that leave days as they are: none, and those of single days. -/
def Bucket.IsDaily (b : Bucket) : Prop := b = .none ∨ b = .auto ∨ b = .day

/-- A text that begins like a date begins with ten characters of ASCII, and with a year of four
digits. Dates need no such rule, as their days are written alike with buckets and without. -/
def Value.BeginsPlainly (v : Value) : Prop :=
  ∀ s, v = .text s → NotePlot.beginsLikeDate s →
    (∀ c ∈ s.toList.take 10, c.toNat < 128) ∧ 1000 ≤ numberOf (s.toList.take 4)

namespace Value

theorem beginsPlainly_text {s : String} (h : NotePlot.beginsLikeDate s →
    ((s.toList.take 10).all fun c => c.toNat < 128) ∧ 1000 ≤ numberOf (s.toList.take 4)) :
    (text s).BeginsPlainly := by
  intro t ht hb
  obtain rfl := Scalar.text.inj (Value.scalar.inj ht)
  obtain ⟨hall, hyear⟩ := h hb
  refine ⟨fun c hc => ?_, hyear⟩
  exact of_decide_eq_true (List.all_eq_true.mp hall c hc)

/-- A text shows the year of its day in its first four characters. -/
theorem numberOf_year_of_day? {s : String} (h : (text s).day? = some d) :
    numberOf (s.toList.take 4) = d.year := by
  obtain ⟨m, hm, rfl⟩ := Option.map_eq_some_iff.mp h
  obtain ⟨rest, hday⟩ := takeDay?_of_leadingMoment? (Option.join_eq_some_iff.mp hm)
  obtain ⟨ys, ms, ds, hcs, ⟨hys, -⟩, hy, -⟩ := takeDay?_eq_some_iff.mp hday
  rw [hcs, List.append_assoc, List.take_left' hys]
  exact (number?_eq_some_iff.mp hy).2.2

end Value

namespace Position

/-- What of a position is seen: the value shown there and the key. -/
def spot (p : Position) : Value × String := (p.shown, p.key)

theorem ofValue_of_beginsPlainly (hv : v.BeginsPlainly) (hd : v.day? = some d) :
    ofValue v = .ok (ofText d.dayLabel true) := by
  obtain ⟨key, hkey, -, hdate, hfull⟩ := ofValue_of_tellsDay (Value.day?_eq_some_iff.mp hd)
  cases hb : v.beginsLikeDate with
  | false => rw [hkey, hdate hb]
  | true =>
    obtain ⟨s, rfl, hs⟩ := Value.exists_text_of_beginsLikeDate hb
    obtain ⟨hascii, hyear⟩ := hv s rfl hs
    rw [Value.numberOf_year_of_day? hd] at hyear
    rw [hkey, hfull hascii, Date.dayLabel_eq_iso hyear]

/-- The label of a day is what is shown of it without buckets, and nothing else has such a label. -/
theorem map_spot_ofBucketed (hb : b.IsDaily) (hv : v.BeginsPlainly) :
    (ofBucketed b v).map spot = (ofValue v).map spot := by
  cases hd : v.day? with
  | none =>
    have hlabel : b.relabel? v = none := by rw [Bucket.relabel?, hd, Option.bind_none]
    rw [ofBucketed, hlabel]
  | some d =>
    rw [ofBucketed, Bucket.relabel?, hd, Option.bind_some, ofValue_of_beginsPlainly hv hd]
    rcases hb with rfl | rfl | rfl <;> rfl

end Position

namespace Observation

/-- Of the position of a value an observation takes what is seen. -/
theorem atPositions_cons (c : Chart) (y : Number) (series : Option String) (note : Note) (v : Value)
    (vs : List Value) : atPositions c y series note (v :: vs) =
      (Position.ofBucketed c.bucket v).map Position.spot >>= fun spot =>
        (atPositions c y series note vs).map
          (⟨spot.1, spot.2, y, series, note.path, note.properties⟩ :: ·) := by
  rw [atPositions]
  cases Position.ofBucketed c.bucket v with
  | error failure => rfl
  | ok p => cases atPositions c y series note vs <;> rfl

/-- Positions that are seen alike make the same observations. -/
theorem atPositions_congr (y : Number) (series : Option String) (note : Note)
    (h : ∀ v ∈ vs, (Position.ofBucketed c.bucket v).map Position.spot =
      (Position.ofBucketed c'.bucket v).map Position.spot) :
    atPositions c y series note vs = atPositions c' y series note vs := by
  induction vs with
  | nil => rfl
  | cons v vs ih =>
    obtain ⟨hv, hvs⟩ := List.forall_mem_cons.mp h
    rw [atPositions_cons, atPositions_cons, hv, ih hvs]

/-- A note gives the same observations if all that is seen of it is seen alike. -/
theorem ofNote_rebucketed (h : ∀ s ∈ Sighting.ofNote c style note,
      (Position.ofBucketed b s.value).map Position.spot =
        (Position.ofBucketed b' s.value).map Position.spot) :
    ofNote { c with bucket := b } style.exploded style.missing note =
      ofNote { c with bucket := b' } style.exploded style.missing note := by
  have hheight (b : Bucket) :
      height? { c with bucket := b } note.properties = height? c note.properties := rfl
  have hvalues (b : Bucket) :
      values { c with bucket := b } style.exploded style.missing note.properties =
        values c style.exploded style.missing note.properties := rfl
  have hseries (b : Bucket) :
      series? { c with bucket := b } note.properties = series? c note.properties := rfl
  rw [sightings_eq] at h
  unfold ofNote
  rw [hheight b, hheight b']
  cases hy : height? c note.properties with
  | error failure => rfl
  | ok y? =>
    cases y? with
    | none => rfl
    | some y =>
      rw [if_pos (isUsable_iff.mpr ⟨y, hy⟩)] at h
      simp only [Outcome.ok_bind, hvalues, hseries]
      cases hvs : values c style.exploded style.missing note.properties with
      | nil => rfl
      | cons v vs =>
        have hspots : ∀ w ∈ v :: vs, (Position.ofBucketed b w).map Position.spot =
            (Position.ofBucketed b' w).map Position.spot := by
          intro w hw
          exact h ⟨note, w⟩ (List.mem_map.mpr ⟨w, hvs ▸ hw, rfl⟩)
        cases hs : series? c note.properties with
        | error failure => rfl
        | ok series => exact atPositions_congr (c := { c with bucket := b }) y series note hspots

theorem ofNotes_rebucketed (h : ∀ s ∈ Sighting.ofNotes c style notes,
      (Position.ofBucketed b s.value).map Position.spot =
        (Position.ofBucketed b' s.value).map Position.spot) :
    ofNotes { c with bucket := b } style.exploded style.missing notes =
      ofNotes { c with bucket := b' } style.exploded style.missing notes := by
  induction notes with
  | nil => rfl
  | cons note rest ih =>
    rw [ofNotes, ofNotes, ofNote_rebucketed fun s hs => h s (List.mem_append_left _ hs),
      ih fun s hs => h s (List.mem_append_right _ hs)]

end Observation

namespace Chart

/-- Between no buckets and buckets of days there is no difference in the points of a chart, nor in
what it fails for, if all texts that are seen begin plainly. That includes texts that begin like a
date which is in no calendar. -/
theorem points_daily (h : ∀ s ∈ Sighting.ofNotes c style notes, s.value.BeginsPlainly)
    (hb : b.IsDaily) (hb' : b'.IsDaily) :
    ({ c with bucket := b } : Chart).points style notes =
      ({ c with bucket := b' } : Chart).points style notes := by
  have hos : ofNotes { c with bucket := b } style.exploded style.missing notes =
      ofNotes { c with bucket := b' } style.exploded style.missing notes := by
    apply ofNotes_rebucketed
    intro s hs
    rw [Position.map_spot_ofBucketed hb (h s hs), Position.map_spot_ofBucketed hb' (h s hs)]
  rw [points, points, hos]
  rfl

def datedWords : Note := ⟨"a.md", [("tags", .text "2024-13-45 2024-05-03T10:00 b")]⟩

/-- One of the words begins like a date that is in no calendar. -/
theorem points_daily_datedWords :
    (∀ s ∈ Sighting.ofNotes tagPie inParts [datedWords], s.value.BeginsPlainly) ∧
    Bucket.day.IsDaily ∧ Bucket.none.IsDaily ∧
    ({ tagPie with bucket := .day } : Chart).points inParts [datedWords] =
      ({ tagPie with bucket := .none } : Chart).points inParts [datedWords] := by
  have hseen : ∀ s ∈ Sighting.ofNotes tagPie inParts [datedWords], s.value.BeginsPlainly := by
    intro s hs
    have hs : s ∈ [(⟨datedWords, .text "2024-13-45"⟩ : Sighting),
        ⟨datedWords, .text "2024-05-03T10:00"⟩, ⟨datedWords, .text "b"⟩] := hs
    simp only [List.mem_cons, List.not_mem_nil, or_false] at hs
    rcases hs with rfl | rfl | rfl <;> exact Value.beginsPlainly_text (by decide)
  have hday : Bucket.day.IsDaily := .inr (.inr rfl)
  exact ⟨hseen, hday, .inl rfl, points_daily hseen hday (.inl rfl)⟩

end Chart
end NotePlot
