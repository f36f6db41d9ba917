import NotePlot.Result.Row
/-! Rows as they are handed on. Whatever the properties of notes are made of comes out as JSON, sets
apart: these are handed on as they are. -/
namespace NotePlot

variable {v : Value} {xs : List Value} {es : List (Scalar × Value)} {fields : List (String × Value)}
  {props : Properties} {row : Row Value}

/-- The scalars of JSON are null, truth values, numbers and texts. -/
def Scalar.IsJson : Scalar → Prop
  | null | bool _ | int _ | float _ | text _ => True
  | bytes _ | date _ | moment .. => False

def Scalar.IsBytes : Scalar → Prop
  | bytes _ => True
  | _ => False

namespace Value

/-- Scalars of JSON, and lists of such values and mappings from names to them, at every depth. -/
inductive IsJson : Value → Prop
  | scalar {s : Scalar} (h : s.IsJson) : IsJson (.scalar s)
  | list {xs : List Value} (h : ∀ x ∈ xs, IsJson x) : IsJson (.list xs)
  | map {es : List (Scalar × Value)} (hk : ∀ e ∈ es, ∃ name, e.1 = .text name)
      (h : ∀ e ∈ es, IsJson e.2) : IsJson (.map es)

/-- What notes hold as properties: scalars other than bytes, collections of such values, and
mappings from names to them. -/
inductive IsProperty : Value → Prop
  | scalar {s : Scalar} (h : ¬ s.IsBytes) : IsProperty (.scalar s)
  | list {xs : List Value} (h : ∀ x ∈ xs, IsProperty x) : IsProperty (.list xs)
  | tuple {xs : List Value} (h : ∀ x ∈ xs, IsProperty x) : IsProperty (.tuple xs)
  | set {xs : List Value} (h : ∀ x ∈ xs, IsProperty x) : IsProperty (.set xs)
  | map {es : List (Scalar × Value)} (hk : ∀ e ∈ es, ∃ name, e.1 = .text name)
      (h : ∀ e ∈ es, IsProperty e.2) : IsProperty (.map es)

/-- Somewhere in a value stands a set. -/
inductive HasSet : Value → Prop
  | set (xs : List Value) : HasSet (.set xs)
  | list {x : Value} {xs : List Value} (hx : x ∈ xs) (h : HasSet x) : HasSet (.list xs)
  | tuple {x : Value} {xs : List Value} (hx : x ∈ xs) (h : HasSet x) : HasSet (.tuple xs)
  | entry {e : Scalar × Value} {es : List (Scalar × Value)} (he : e ∈ es) (h : HasSet e.2) :
      HasSet (.map es)

/-- An integer or a double. -/
inductive IsNumber : Value → Prop
  | int (n : Int) : IsNumber (.scalar (.int n))
  | float (x : Float) : IsNumber (.scalar (.float x))

theorem isJson_text (s : String) : (text s).IsJson := .scalar trivial

theorem IsNumber.isJson (h : v.IsNumber) : v.IsJson := by
  cases h <;> exact .scalar trivial

theorem isJson_list_iff : (list xs).IsJson ↔ ∀ x ∈ xs, x.IsJson := by
  refine ⟨fun h => ?_, .list⟩
  cases h with
  | list h => exact h

theorem isJson_map_iff (hk : ∀ e ∈ es, ∃ name, e.1 = .text name) :
    (map es).IsJson ↔ ∀ e ∈ es, e.2.IsJson := by
  refine ⟨fun h => ?_, .map hk⟩
  cases h with
  | map _ h => exact h

theorem not_isJson_set (xs : List Value) : ¬ (set xs).IsJson := by
  intro h
  cases h

@[simp]
theorem not_hasSet_scalar (s : Scalar) : ¬ (scalar s).HasSet := by
  intro h
  cases h

@[simp]
theorem hasSet_list_iff : (list xs).HasSet ↔ ∃ x ∈ xs, x.HasSet := by
  constructor
  · intro h
    cases h with
    | list hx h => exact ⟨_, hx, h⟩
  · rintro ⟨x, hx, h⟩
    exact .list hx h

@[simp]
theorem hasSet_tuple_iff : (tuple xs).HasSet ↔ ∃ x ∈ xs, x.HasSet := by
  constructor
  · intro h
    cases h with
    | tuple hx h => exact ⟨_, hx, h⟩
  · rintro ⟨x, hx, h⟩
    exact .tuple hx h

@[simp]
theorem hasSet_map_iff : (map es).HasSet ↔ ∃ e ∈ es, e.2.HasSet := by
  constructor
  · intro h
    cases h with
    | entry he h => exact ⟨_, he, h⟩
  · rintro ⟨e, he, h⟩
    exact .entry he h

theorem portableItems_eq_map (xs : List Value) : portableItems xs = xs.map portable := by
  induction xs with
  | nil => rfl
  | cons x xs ih => rw [portableItems, ih, List.map_cons]

theorem portableEntries_eq_map (es : List (Scalar × Value)) :
    portableEntries es = es.map fun e => (e.1, e.2.portable) := by
  induction es with
  | nil => rfl
  | cons e es ih => rw [portableEntries, ih, List.map_cons]

/-- Items that each come out as JSON but for sets do so together. -/
theorem isJson_portableItems_iff (ih : ∀ x ∈ xs, (x.portable.IsJson ↔ ¬ x.HasSet)) :
    (list (portableItems xs)).IsJson ↔ ¬ ∃ x ∈ xs, x.HasSet := by
  rw [isJson_list_iff, portableItems_eq_map, List.forall_mem_map]
  simp only [not_exists, not_and]
  exact forall₂_congr ih

/-- Of the values that properties are made of, those without a set come out as JSON, and no others.
-/
theorem isJson_portable_iff (h : v.IsProperty) : v.portable.IsJson ↔ ¬ v.HasSet := by
  induction h with
  | @scalar s h =>
    refine iff_of_true ?_ (not_hasSet_scalar s)
    cases s with
    | bytes bs => exact (h trivial).elim
    | _ => exact .scalar trivial
  | list _ ih => rw [portable, isJson_portableItems_iff ih, hasSet_list_iff]
  | tuple _ ih => rw [portable, isJson_portableItems_iff ih, hasSet_tuple_iff]
  | @set xs _ _ => exact iff_of_false (not_isJson_set xs) (not_not_intro (.set xs))
  | @map es hk _ ih =>
    have hkeys : ∀ e ∈ es.map fun e => (e.1, e.2.portable), ∃ name, e.1 = .text name :=
      List.forall_mem_map.mpr hk
    rw [portable, portableEntries_eq_map, isJson_map_iff hkeys, hasSet_map_iff, List.forall_mem_map]
    simp only [not_exists, not_and]
    exact forall₂_congr ih

theorem isJson_ofFields_iff : (ofFields fields).IsJson ↔ ∀ p ∈ fields, p.2.IsJson := by
  unfold ofFields
  refine (isJson_map_iff ?_).trans List.forall_mem_map
  exact List.forall_mem_map.mpr fun p _ => ⟨p.1, rfl⟩

theorem isProperty_toValue (h : ∀ p ∈ props, p.2.IsProperty) : props.toValue.IsProperty :=
  .map (List.forall_mem_map.mpr fun p _ => ⟨p.1, rfl⟩) (List.forall_mem_map.mpr h)

theorem hasSet_toValue_iff : props.toValue.HasSet ↔ ∃ p ∈ props, p.2.HasSet := by
  rw [Properties.toValue, ofFields, hasSet_map_iff]
  constructor
  · rintro ⟨e, he, h⟩
    obtain ⟨p, hp, rfl⟩ := List.mem_map.mp he
    exact ⟨p, hp, h⟩
  · rintro ⟨p, hp, h⟩
    exact ⟨_, List.mem_map.mpr ⟨p, hp, rfl⟩, h⟩

theorem isJson_portable_toValue_iff (h : ∀ p ∈ props, p.2.IsProperty) :
    props.toValue.portable.IsJson ↔ ∀ p ∈ props, ¬ p.2.HasSet := by
  rw [isJson_portable_iff (isProperty_toValue h), hasSet_toValue_iff]
  simp only [not_exists, not_and]

end Value

namespace Row

open Value

/-- A part of a row that may be unset is asked about only if it is set. -/
theorem forall_part_iff {α : Type} {part : Option α} {make : α → Value} {name : String} :
    (∀ b, Option.map (fun v => (name, v.portable)) (part.map make) = some b → b.2.IsJson) ↔
      ∀ a, part = some a → (make a).portable.IsJson := by
  cases part <;> simp

/-- A row without a set in it, be it on the x axis or in its properties, is handed on as JSON. Sets,
and nothing else that the properties of notes are made of, keep it from that. -/
theorem isJson_toValue_iff (hy : row.y.IsNumber) (hx : row.x.IsProperty)
    (hp : ∀ props, row.properties = some props → ∀ p ∈ props, p.2.IsProperty) :
    row.toValue.IsJson ↔ ¬ row.x.HasSet ∧
      ∀ props, row.properties = some props → ∀ p ∈ props, ¬ p.2.HasSet := by
  have hnotes : (texts row.notes).IsJson :=
    isJson_list_iff.mpr (List.forall_mem_map.mpr fun path _ => isJson_text path)
  have hmoment (m : Moment) : (ofMoment m).portable.IsJson := isJson_text _
  have hseries (s : String) : (text s).portable.IsJson := isJson_text s
  rw [toValue, isJson_ofFields_iff]
  simp only [List.forall_mem_append, List.forall_mem_cons, List.forall_mem_filterMap,
    forall_part_iff]
  simp only [hy.isJson, hnotes, hmoment, hseries, isJson_portable_iff hx, List.not_mem_nil,
    false_implies, implies_true, true_and, and_true]
  exact and_congr_right fun _ => forall₂_congr fun props h => isJson_portable_toValue_iff (hp props h)

/-- A bar that begins on a day, which is on the x axis and deep in the properties as well. -/
def datedBar (d : Date) : Row Value where
  x := .scalar (.date d)
  y := .scalar (.float 0.0)
  notes := ["a.md"]
  series := some "work"
  start := some (.midnight d)
  finish := none
  due := none
  properties := some [("log", .tuple [.list [.scalar (.date d), .null],
    .map [(.text "at", .scalar (.moment (.midnight d) (some ⟨3600000000⟩)))]])]

theorem isJson_toValue_iff_datedBar :
    (datedBar { year := 2024, month := 2, day := 29 }).y.IsNumber ∧
    (datedBar { year := 2024, month := 2, day := 29 }).x.IsProperty ∧
    (∀ props, (datedBar { year := 2024, month := 2, day := 29 }).properties = some props →
      ∀ p ∈ props, p.2.IsProperty) ∧
    (datedBar { year := 2024, month := 2, day := 29 }).toValue.IsJson := by
  generalize ({ year := 2024, month := 2, day := 29 } : Date) = d
  have hx : (datedBar d).x.IsProperty := .scalar id
  have hp : ∀ props, (datedBar d).properties = some props → ∀ p ∈ props, p.2.IsProperty := by
    rintro props ⟨⟩
    have hlist : (list [.scalar (.date d), .null]).IsProperty := by
      apply IsProperty.list
      simp only [List.forall_mem_cons, List.not_mem_nil, false_implies, implies_true, and_true]
      exact ⟨.scalar id, .scalar id⟩
    have hmap : (map [(.text "at", .scalar (.moment (.midnight d) (some ⟨3600000000⟩)))]).IsProperty :=
      .map (List.forall_mem_singleton.mpr ⟨_, rfl⟩) (List.forall_mem_singleton.mpr (.scalar id))
    refine List.forall_mem_singleton.mpr (.tuple ?_)
    simp only [List.forall_mem_cons, List.not_mem_nil, false_implies, implies_true, and_true]
    exact ⟨hlist, hmap⟩
  refine ⟨.float _, hx, hp, (isJson_toValue_iff (.float _) hx hp).mpr ⟨not_hasSet_scalar _, ?_⟩⟩
  rintro props ⟨⟩
  simp [null]

/-- A set of words among the properties. -/
def taggedRow : Row Value :=
  .plain (.text "a") (.scalar (.float 1.0)) ["a.md"] none
    (some [("tags", .set [.text "work", .text "home"])])

/-- A row of values as notes hold them that is not handed on as JSON. -/
theorem not_isJson_taggedRow : taggedRow.y.IsNumber ∧ taggedRow.x.IsProperty ∧
    (∀ props, taggedRow.properties = some props → ∀ p ∈ props, p.2.IsProperty) ∧
    ¬ taggedRow.toValue.IsJson := by
  refine ⟨.float _, .scalar id, ?_, fun h => ?_⟩
  · rintro props ⟨⟩
    refine List.forall_mem_singleton.mpr (.set ?_)
    simp only [List.forall_mem_cons, List.not_mem_nil, false_implies, implies_true, and_true]
    exact ⟨.scalar id, .scalar id⟩
  · have hfields : taggedRow.toValue = ofFields [("x", .text "a"), ("y", .scalar (.float 1.0)),
        ("notes", texts ["a.md"]), ("props", ofFields [("tags", .set [.text "work", .text "home"])])] :=
      rfl
    rw [hfields, isJson_ofFields_iff] at h
    have hprops := h ("props", _) (.tail _ (.tail _ (.tail _ (.head _))))
    have htags := isJson_ofFields_iff.mp hprops _ List.mem_cons_self
    exact not_isJson_set _ htags

end Row
end NotePlot
