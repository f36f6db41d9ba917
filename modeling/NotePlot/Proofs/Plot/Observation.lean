import NotePlot.Plot.Points
import Mathlib.Data.List.Forall2
/-! Observations: what a plot should see of its notes, and that it sees just that. -/
namespace NotePlot

variable {c : Chart} {style : PlotStyle} {note : Note} {notes : List Note}
  {o : Observation} {os : List Observation}

/-- A note together with one of the values that it has on the x axis. -/
structure Sighting where
  note : Note
  value : Value

namespace Sighting

/-- A note is usable if notes are counted, or if its property on the y axis holds a number. -/
def isUsable (c : Chart) (note : Note) : Bool :=
  c.aggregation.reduction = some .count ||
    (Observation.channel note.properties c.encoding.y).first.number.toOption.join.isSome

/-- A usable note is seen at its first value unless that is null, or else at each of its parts. -/
def ofNote (c : Chart) (style : PlotStyle) (note : Note) : List Sighting :=
  let v := Observation.channel note.properties c.encoding.x
  let values := if style.exploded then Category.explode v style.missing
    else if v.first.isNull then [] else [v.first]
  if isUsable c note then values.map (⟨note, ·⟩) else []

def ofNotes (c : Chart) (style : PlotStyle) (notes : List Note) : List Sighting :=
  notes.flatMap (ofNote c style)

/-- The observation that a sighting should give. -/
structure GivesRise (c : Chart) (s : Sighting) (o : Observation) : Prop where
  path : o.path = s.note.path
  properties : o.properties = s.note.properties
  position : ∃ isDate, Position.ofBucketed c.bucket s.value = .ok ⟨o.x, o.key, isDate⟩
  series : Observation.series? c s.note.properties = .ok o.series
  height : Observation.height? c s.note.properties = .ok (some o.y)

end Sighting

/-- No number of a note is too large for a double where one is needed, and its texts can be
written. -/
structure Note.Readable (c : Chart) (style : PlotStyle) (note : Note) : Prop where
  number : c.aggregation.reduction ≠ some .count →
    ∃ n, (Observation.channel note.properties c.encoding.y).first.number = .ok n
  series : ∃ s, (Observation.channel note.properties c.encoding.series).first.plain = .ok s
  values : ∀ v ∈ Observation.values c style.exploded style.missing note.properties,
    ∃ s, v.plain = .ok s

namespace Position

variable {b : Bucket} {v : Value}

/-- The key under which notes meet is the text of what is shown. -/
theorem plain_shown {p : Position} (h : ofBucketed b v = .ok p) : p.shown.plain = .ok p.key := by
  unfold ofBucketed at h
  split at h
  · cases h; rfl
  · unfold ofValue at h
    split at h
    · split at h <;> cases h <;> rfl
    · cases h; rfl
    · cases h; rfl
    · obtain ⟨s, hs, h⟩ := Outcome.bind_eq_ok.mp h
      cases h
      exact hs

theorem exists_of_plain {s : String} (h : v.plain = .ok s) : ∃ p, ofBucketed b v = .ok p := by
  unfold ofBucketed
  split
  · exact ⟨_, rfl⟩
  · unfold ofValue
    split
    · split <;> exact ⟨_, rfl⟩
    · exact ⟨_, rfl⟩
    · exact ⟨_, rfl⟩
    · exact ⟨⟨v, s, false⟩, by simp [h]⟩

end Position

namespace Observation

/-- The key of an observation is the text of what it shows, and no series has an empty name. -/
structure Sound (o : Observation) : Prop where
  text : o.x.plain = .ok o.key
  series : o.series ≠ some ""

theorem series?_ne_empty {props : Properties} {s : Option String} (h : series? c props = .ok s) :
    s ≠ some "" := by
  unfold series? at h
  split at h
  · cases h; simp
  · obtain ⟨name, -, h⟩ := Outcome.bind_eq_ok.mp h
    rintro rfl
    split at h
    · cases h
    · next hb =>
      cases h
      exact hb rfl

theorem series?_of_plain {props : Properties} {s : String}
    (h : (channel props c.encoding.series).first.plain = .ok s) : ∃ t, series? c props = .ok t := by
  unfold series?
  split
  · exact ⟨none, rfl⟩
  · exact ⟨_, by simp [h]; rfl⟩

theorem height?_eq (c : Chart) (props : Properties) :
    height? c props = if c.aggregation.reduction = some .count then .ok (some .one)
      else (channel props c.encoding.y).first.number := by
  unfold height? channel
  cases c.encoding.y <;> rfl

theorem isUsable_iff :
    Sighting.isUsable c note ↔ ∃ y, height? c note.properties = .ok (some y) := by
  rw [height?_eq, Sighting.isUsable]
  split
  next h => simp [h]
  next h =>
    cases hn : (channel note.properties c.encoding.y).first.number with
    | error e => simp [h, Except.toOption]
    | ok n => cases n <;> simp [h, Except.toOption]

/-- One observation is made at each value, with the data of the note. -/
theorem givesRise_atPositions {y : Number} {series : Option String} {vs : List Value}
    (hy : height? c note.properties = .ok (some y)) (hs : series? c note.properties = .ok series)
    (h : atPositions c y series note vs = .ok os) :
    List.Forall₂ (Sighting.GivesRise c) (vs.map (⟨note, ·⟩)) os := by
  induction vs generalizing os with
  | nil => cases h; exact .nil
  | cons v vs ih =>
    simp only [atPositions, Outcome.bind_eq_ok] at h
    obtain ⟨p, hp, later, hl, h⟩ := h
    cases h
    exact .cons ⟨rfl, rfl, ⟨p.isDate, hp⟩, hs, hy⟩ (ih hl)

theorem atPositions_of_plain (c : Chart) (y : Number) (series : Option String) (note : Note)
    {vs : List Value} (h : ∀ v ∈ vs, ∃ s, v.plain = .ok s) :
    ∃ os, atPositions c y series note vs = .ok os := by
  induction vs with
  | nil => exact ⟨[], rfl⟩
  | cons v vs ih =>
    obtain ⟨s, hv⟩ := h v List.mem_cons_self
    obtain ⟨p, hp⟩ := Position.exists_of_plain (b := c.bucket) hv
    obtain ⟨later, hl⟩ := ih fun w hw => h w (List.mem_cons_of_mem _ hw)
    exact ⟨⟨p.shown, p.key, y, series, note.path, note.properties⟩ :: later,
      by simp [atPositions, hp, hl]⟩

/-- The values that are looked at are those of the sightings. -/
theorem sightings_eq (c : Chart) (style : PlotStyle) (note : Note) :
    Sighting.ofNote c style note = if Sighting.isUsable c note then
      (values c style.exploded style.missing note.properties).map (⟨note, ·⟩) else [] := by
  unfold Sighting.ofNote values Value.unlessNull
  by_cases hn : (channel note.properties c.encoding.x).first.isNull <;> simp [hn]

theorem givesRise_ofNote (h : ofNote c style.exploded style.missing note = .ok os) :
    List.Forall₂ (Sighting.GivesRise c) (Sighting.ofNote c style note) os := by
  rw [sightings_eq]
  unfold ofNote at h
  obtain ⟨y?, hy, h⟩ := Outcome.bind_eq_ok.mp h
  cases y? with
  | none =>
    have hu : ¬ Sighting.isUsable c note := by simp [isUsable_iff, hy]
    cases h
    simp [hu]
  | some y =>
    rw [if_pos (isUsable_iff.mpr ⟨y, hy⟩)]
    dsimp only at h
    split at h
    next hv =>
      cases h
      simp [hv]
    next vs hv =>
      obtain ⟨series, hs, h⟩ := Outcome.bind_eq_ok.mp h
      exact givesRise_atPositions hy hs h

theorem ofNote_of_readable (h : note.Readable c style) :
    ∃ os, ofNote c style.exploded style.missing note = .ok os := by
  have hheight : ∃ y, height? c note.properties = .ok y := by
    rw [height?_eq]
    split
    next hc => exact ⟨_, rfl⟩
    next hc => exact h.number hc
  obtain ⟨y?, hy⟩ := hheight
  obtain ⟨s, hs⟩ := h.series
  obtain ⟨series, hs⟩ := series?_of_plain hs
  unfold ofNote
  rw [hy]
  cases y? with
  | none => exact ⟨[], rfl⟩
  | some y =>
    obtain ⟨os, hos⟩ := atPositions_of_plain c y series note h.values
    cases hv : values c style.exploded style.missing note.properties with
    | nil => exact ⟨[], rfl⟩
    | cons v vs => exact ⟨os, by simp [hv, hs, ← hos]⟩

/-- The observations of a note, none if they cannot be made. -/
def made (c : Chart) (style : PlotStyle) (note : Note) : List Observation :=
  (ofNote c style.exploded style.missing note).toOption.getD []

/-- Notes are observed one by one: none of them changes what is made of another. -/
theorem ofNotes_eq_ok_iff : ofNotes c style.exploded style.missing notes = .ok os ↔
    (∀ note ∈ notes, ofNote c style.exploded style.missing note = .ok (made c style note)) ∧
      os = notes.flatMap (made c style) := by
  induction notes generalizing os with
  | nil => simp [ofNotes, eq_comm]
  | cons note rest ih =>
    simp only [ofNotes, Outcome.bind_eq_ok, List.forall_mem_cons, List.flatMap_cons]
    constructor
    · rintro ⟨here, hh, later, hl, h⟩
      obtain ⟨hr, rfl⟩ := ih.mp hl
      have hm : made c style note = here := by simp [made, hh, Except.toOption]
      cases h
      exact ⟨⟨hm ▸ hh, hr⟩, by rw [hm]⟩
    · rintro ⟨⟨hh, hr⟩, rfl⟩
      exact ⟨_, hh, _, ih.mpr ⟨hr, rfl⟩, rfl⟩

theorem givesRise_ofNotes (h : ofNotes c style.exploded style.missing notes = .ok os) :
    List.Forall₂ (Sighting.GivesRise c) (Sighting.ofNotes c style notes) os := by
  induction notes generalizing os with
  | nil => cases h; exact .nil
  | cons note rest ih =>
    simp only [ofNotes, Outcome.bind_eq_ok] at h
    obtain ⟨here, hh, later, hl, h⟩ := h
    cases h
    exact List.rel_append (givesRise_ofNote hh) (ih hl)

theorem ofNotes_of_readable (h : ∀ note ∈ notes, note.Readable c style) :
    ∃ os, ofNotes c style.exploded style.missing notes = .ok os := by
  refine ⟨_, ofNotes_eq_ok_iff.mpr ⟨fun note hn => ?_, rfl⟩⟩
  obtain ⟨os, hos⟩ := ofNote_of_readable (h note hn)
  simp [made, hos, Except.toOption]

/-- The order of the notes is the order of what is made of them, and no more than that. -/
theorem ofNotes_perm {notes' : List Note} (hp : notes.Perm notes')
    (h : ofNotes c style.exploded style.missing notes = .ok os) :
    ∃ os', ofNotes c style.exploded style.missing notes' = .ok os' ∧ os.Perm os' := by
  obtain ⟨hn, rfl⟩ := ofNotes_eq_ok_iff.mp h
  exact ⟨_, ofNotes_eq_ok_iff.mpr ⟨fun note hm => hn note (hp.mem_iff.mpr hm), rfl⟩,
    hp.flatMap_right _⟩

theorem sound_of_givesRise {s : Sighting} (h : s.GivesRise c o) : o.Sound := by
  obtain ⟨isDate, hp⟩ := h.position
  exact ⟨Position.plain_shown hp, series?_ne_empty h.series⟩

theorem sound_ofNotes (h : ofNotes c style.exploded style.missing notes = .ok os) :
    ∀ o ∈ os, o.Sound := by
  have hg := givesRise_ofNotes h
  generalize Sighting.ofNotes c style notes = sightings at hg
  clear h
  induction hg with
  | nil => simp
  | cons ho _ ih => exact List.forall_mem_cons.mpr ⟨sound_of_givesRise ho, ih⟩

end Observation
end NotePlot
