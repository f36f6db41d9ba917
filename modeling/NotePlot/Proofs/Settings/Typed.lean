import NotePlot.Settings.Loading
import NotePlot.Proofs.Value.Printable
/-! Typed settings: each setting of a file or of the environment is made into the kind that it has
by default, or refused. Null and infinite numbers are what gets past that. -/
namespace NotePlot

open Outcome

variable {v w : Value} {kind : SettingKind} {key : SettingKey} {s s' : Settings} {l l' : Loaded}
  {read : Yaml.Reader} {document : Option String}
  {file : String} {es : List (Scalar × Value)} {k : Scalar} {env : Environment}

/-- A failure over a value that does not fit where it is put. -/
def Failure.IsUnfit (failure : Failure) : Prop := ∃ fault, failure = .setting fault

/-- A failure over settings that is reported with its reason. -/
def Failure.IsRefusal (failure : Failure) : Prop :=
  (∃ fault, failure = .settings fault) ∨ failure.IsRange

/-- The double that a value is, or spells as one set by hand. -/
def Value.spelled? : Value → Option Float
  | .scalar (.float x) => some x
  | .scalar (.text s) => Numeral.loose? s.toList
  | _ => none

/-- An infinite number, or a text that spells one. -/
def Value.IsInfinite (v : Value) : Prop := v.spelled?.any Float.isInf

instance (v : Value) : Decidable v.IsInfinite := inferInstanceAs (Decidable (_ = true))

namespace SettingKind

/-- What a setting of a kind is. -/
def Holds (kind : SettingKind) (v : Value) : Prop :=
  match kind with
  | integer => ∃ n, v = .scalar (.int n)
  | real => ∃ x, v = .scalar (.float x)
  | bool => ∃ b, v = .scalar (.bool b)
  | text => ∃ s, v = .text s
  | list => ∃ xs, v.opened = .list xs
  | any => True

theorem wholePart_eq_ok {x : Float} (h : wholePart x = .ok v) : integer.Holds v := by
  unfold wholePart at h
  split at h
  next _ => cases h
  next _ =>
    split at h <;> cases h
    exact ⟨_, rfl⟩

theorem holds_toInteger (h : toInteger v = .ok w) : integer.Holds w := by
  unfold toInteger at h
  split at h
  case h_1 => cases h
  case h_2 n =>
    cases h
    exact ⟨n, rfl⟩
  case h_3 => exact wholePart_eq_ok h
  case h_4 =>
    obtain ⟨x, -, h⟩ := bind_eq_ok.mp h
    exact wholePart_eq_ok h
  case h_5 =>
    split at h <;> cases h
    exact ⟨_, rfl⟩
  case h_6 => cases h

theorem holds_toReal (h : toReal v = .ok w) : real.Holds w := by
  unfold toReal at h
  split at h
  case h_1 =>
    cases h
    exact ⟨_, rfl⟩
  case h_2 | h_4 | h_5 =>
    obtain ⟨x, -, h⟩ := bind_eq_ok.mp h
    cases h
    exact ⟨x, rfl⟩
  case h_3 x =>
    cases h
    exact ⟨x, rfl⟩
  case h_6 => cases h

theorem holds_toList (h : toList v = .ok w) : list.Holds w := by
  unfold toList at h
  split at h
  case h_1 xs hv =>
    cases h
    exact ⟨xs, hv⟩
  case h_2 xs _ =>
    cases h
    exact ⟨xs, rfl⟩
  case h_3 =>
    cases h
    exact ⟨_, rfl⟩
  case h_4 => cases h

/-- A value that is made into one of a kind is of that kind, unless it is null. -/
theorem holds_coerce (hn : v.isNull = false) (h : kind.coerce v = .ok w) : kind.Holds w := by
  unfold coerce at h
  rw [hn, if_neg Bool.false_ne_true] at h
  cases kind with
  | integer => exact holds_toInteger h
  | real => exact holds_toReal h
  | bool =>
    cases h
    exact ⟨_, rfl⟩
  | text =>
    obtain ⟨s, -, h⟩ := bind_eq_ok.mp h
    cases h
    exact ⟨s, rfl⟩
  | list => exact holds_toList h
  | any => trivial

theorem failsOnly_wholePart {x : Float} (hx : ¬ x.isInf) :
    FailsOnly Failure.IsUnfit (wholePart x) := by
  unfold wholePart
  rw [if_neg hx]
  exact failsOnly_ite (failsOnly_error ⟨_, rfl⟩) (failsOnly_ok _)

theorem failsOnly_toInteger (hv : ¬ v.IsInfinite) : FailsOnly Failure.IsUnfit (toInteger v) := by
  have whole {x : Float} (hx : v.spelled? = some x) : FailsOnly Failure.IsUnfit (wholePart x) :=
    failsOnly_wholePart fun hinf => hv (by rw [Value.IsInfinite, hx]; exact hinf)
  unfold toInteger
  split
  case h_1 => exact failsOnly_error ⟨_, rfl⟩
  case h_2 => exact failsOnly_ok _
  case h_3 x => exact whole rfl
  case h_4 s =>
    unfold spelledText spelled
    split
    next x hs => exact whole hs
    next _ => exact failsOnly_error ⟨_, rfl⟩
  case h_5 =>
    split
    · exact failsOnly_ok _
    · exact failsOnly_error ⟨_, rfl⟩
  case h_6 => exact failsOnly_error ⟨_, rfl⟩

theorem failsOnly_toList (v : Value) : FailsOnly Failure.IsUnfit (toList v) := by
  unfold toList
  split
  case h_4 => exact failsOnly_error ⟨_, rfl⟩
  all_goals exact failsOnly_ok _

end SettingKind

namespace SettingKey

theorem mem_all (key : SettingKey) : key ∈ all := by
  cases key <;> decide

theorem ofName?_name (key : SettingKey) : ofName? key.name = some key := by
  cases key <;> rfl

theorem kind_cases (key : SettingKey) :
    key = .defaultBlockMinutes ∨ key.kind = .text ∨ key.kind = .list := by
  cases key <;> simp [kind]

/-- Null is of the kind of no setting. -/
theorem isNull_of_holds (h : key.kind.Holds v) : v.isNull = false := by
  obtain rfl | hk | hk := key.kind_cases
  · obtain ⟨n, rfl⟩ := h
    rfl
  · rw [hk] at h
    obtain ⟨t, rfl⟩ := h
    rfl
  · rw [hk] at h
    obtain ⟨xs, h⟩ := h
    cases v with
    | scalar t => cases h
    | _ => rfl

theorem failsOnly_coerce (hv : v.IsPrintable)
    (hblock : key = .defaultBlockMinutes → ¬ v.IsInfinite) :
    FailsOnly (fun failure => failure.IsUnfit ∨ failure.IsRange) (key.kind.coerce v) := by
  refine failsOnly_ite (failsOnly_ok _) ?_
  obtain rfl | hk | hk := key.kind_cases
  · exact (SettingKind.failsOnly_toInteger (hblock rfl)).mono fun _ => .inl
  · rw [hk]
    exact failsOnly_bind (hv.failsOnly_display.mono fun _ => .inr) fun _ _ => failsOnly_ok _
  · rw [hk]
    exact (SettingKind.failsOnly_toList v).mono fun _ => .inl

end SettingKey

namespace Settings

/-- Settings of which each is of its kind. -/
def IsTyped (s : Settings) : Prop := ∀ key : SettingKey, key.kind.Holds (s key)

theorem isTyped_usual : IsTyped usual := by
  intro key
  cases key <;> exact ⟨_, rfl⟩

theorem IsTyped.set (h : s.IsTyped) (hv : key.kind.Holds v) : (s.set key v).IsTyped := by
  intro k
  by_cases hk : k = key
  · subst hk
    rw [set_same]
    exact hv
  · rw [set_other s v hk]
    exact h k

/-- Settings to draw charts with: each is of its kind, and a block takes some time. -/
structure IsSound (s : Settings) : Prop where
  isTyped : s.IsTyped
  block : ∃ n : Int, 0 < n ∧ s .defaultBlockMinutes = .scalar (.int n)

end Settings

namespace Loaded

/-- An entry that gives null to no setting. -/
def IsGiven (e : Scalar × Value) : Prop := (SettingKey.ofScalar? e.1).isSome → e.2.isNull = false

/-- An entry that gives no infinite length to blocks. -/
def IsBounded (e : Scalar × Value) : Prop :=
  SettingKey.ofScalar? e.1 = some .defaultBlockMinutes → ¬ e.2.IsInfinite

instance (e : Scalar × Value) : Decidable (IsGiven e) := inferInstanceAs (Decidable (_ → _))

instance (e : Scalar × Value) : Decidable (IsBounded e) := inferInstanceAs (Decidable (_ → _))

theorem isTyped_takeKnown (hl : l.settings.IsTyped) (hv : v.isNull = false)
    (h : l.takeKnown key v = .ok l') : l'.settings.IsTyped := by
  unfold takeKnown at h
  split at h
  next w hw =>
    cases h
    exact hl.set (SettingKind.holds_coerce hv hw)
  next fault hf =>
    obtain ⟨shown, -, h⟩ := bind_eq_ok.mp h
    split at h <;> cases h
    exact hl
  next => cases h

/-- An entry leaves the settings typed. -/
theorem isTyped_takeEntry (hl : l.settings.IsTyped) (he : IsGiven (k, v))
    (h : l.takeEntry file k v = .ok l') : l'.settings.IsTyped := by
  unfold takeEntry at h
  split at h
  next key hk => exact isTyped_takeKnown hl (he (Option.isSome_of_eq_some hk)) h
  next _ =>
    obtain ⟨name, -, h⟩ := bind_eq_ok.mp h
    cases h
    exact hl

/-- So do all entries of a file. -/
theorem isTyped_takeEntries (hl : l.settings.IsTyped) (hes : ∀ e ∈ es, IsGiven e)
    (h : takeEntries file l es = .ok l') : l'.settings.IsTyped := by
  induction es generalizing l with
  | nil =>
    cases h
    exact hl
  | cons e es ih =>
    obtain ⟨he, hes⟩ := List.forall_mem_cons.mp hes
    obtain ⟨l₁, h₁, h⟩ := bind_eq_ok.mp h
    exact ih (isTyped_takeEntry hl he h₁) hes h

theorem failsOnly_takeKnown (hv : v.IsPrintable)
    (hblock : key = .defaultBlockMinutes → ¬ v.IsInfinite) :
    FailsOnly Failure.IsRefusal (l.takeKnown key v) := by
  have hcoerce := SettingKey.failsOnly_coerce hv hblock
  unfold takeKnown
  split
  next => exact failsOnly_ok _
  next fault hf =>
    refine failsOnly_bind (hv.failsOnly_display.mono fun _ => .inr) fun _ _ => ?_
    exact failsOnly_ite (failsOnly_error (.inl ⟨_, rfl⟩)) (failsOnly_ok _)
  next failure hn hf =>
    obtain ⟨fault, rfl⟩ | h := hcoerce failure hf
    · exact (hn fault rfl).elim
    · exact failsOnly_error (.inr h)

theorem failsOnly_takeEntry (hv : v.IsPrintable) (hb : IsBounded (k, v)) :
    FailsOnly Failure.IsRefusal (l.takeEntry file k v) := by
  unfold takeEntry
  split
  next key hk => exact failsOnly_takeKnown hv fun h => hb (h ▸ hk)
  next _ =>
    exact failsOnly_bind ((k.isRange_of_written _).mono fun _ => .inr) fun _ _ => failsOnly_ok _

theorem failsOnly_takeEntries (hp : ∀ e ∈ es, e.2.IsPrintable)
    (hb : ∀ e ∈ es, IsBounded e) : FailsOnly Failure.IsRefusal (takeEntries file l es) := by
  induction es generalizing l with
  | nil => exact failsOnly_ok _
  | cons e es ih =>
    obtain ⟨hpe, hp⟩ := List.forall_mem_cons.mp hp
    obtain ⟨hbe, hb⟩ := List.forall_mem_cons.mp hb
    exact failsOnly_bind (failsOnly_takeEntry hpe hbe) fun _ _ => ih hp hb

end Loaded

/-- The environment gives no infinite length to blocks. -/
def Environment.IsBounded (env : Environment) : Prop :=
  ∀ given ∈ List.lookup "NOTE_CHARTS_DEFAULT_BLOCK_MINUTES" env, ¬ (Value.text given).IsInfinite

namespace Settings

theorem holds_overridden (hs : s.IsTyped) (h : s.overridden env key = .ok v) :
    key.kind.Holds v := by
  unfold overridden at h
  split at h
  next name given _ =>
    rw [SettingKey.isNull_of_holds (hs key), if_neg Bool.false_ne_true] at h
    dsimp only at h
    split at h
    next => cases h
    next => exact SettingKind.holds_coerce rfl h
  next =>
    cases h
    exact hs key

theorem failsOnly_overridden (hs : s.IsTyped) (henv : env.IsBounded) (key : SettingKey) :
    FailsOnly Failure.IsRefusal (s.overridden env key) := by
  unfold overridden
  split
  next name given hgiven =>
    have hblock : key = .defaultBlockMinutes → ¬ (Value.text given).IsInfinite := by
      rintro rfl
      obtain ⟨_, hlookup, hname⟩ := Option.map_eq_some_iff.mp hgiven
      cases hname
      exact henv given hlookup
    rw [SettingKey.isNull_of_holds (hs key), if_neg Bool.false_ne_true]
    dsimp only
    split
    next => exact failsOnly_error (.inl ⟨_, rfl⟩)
    next r hn =>
      intro failure hf
      obtain ⟨fault, rfl⟩ | h := SettingKey.failsOnly_coerce (.scalar _) hblock failure hf
      · exact (hn fault hf).elim
      · exact .inr h
  next => exact failsOnly_ok _

/-- Overriding leaves the settings typed, and lets them pass only with blocks of some length. -/
theorem isSound_override (hs : s.IsTyped) (h : s.override env = .ok s') : s'.IsSound := by
  obtain ⟨paths, hpaths, h⟩ := bind_eq_ok.mp h
  obtain ⟨block, hblock, h⟩ := bind_eq_ok.mp h
  obtain ⟨missing, hmissing, h⟩ := bind_eq_ok.mp h
  obtain ⟨level, hlevel, h⟩ := bind_eq_ok.mp h
  obtain ⟨isPositive, hpositive, h⟩ := bind_eq_ok.mp h
  have hkind : SettingKey.defaultBlockMinutes.kind.Holds block := holds_overridden hs hblock
  obtain ⟨n, rfl⟩ := hkind
  cases hpositive
  split at h
  next _ =>
    obtain ⟨shown, -, h⟩ := bind_eq_ok.mp h
    cases h
  next hn =>
    cases h
    have htyped := ((hs.set (holds_overridden hs hpaths)).set (holds_overridden hs hblock)).set
      (holds_overridden hs hmissing) |>.set (holds_overridden hs hlevel)
    exact ⟨htyped, n, by simpa using hn, rfl⟩

theorem failsOnly_override (hs : s.IsTyped) (henv : env.IsBounded) :
    FailsOnly Failure.IsRefusal (s.override env) := by
  have step := failsOnly_overridden hs henv
  refine failsOnly_bind (step .defaultPaths) fun _ _ => failsOnly_bind (step _) fun block hblock => ?_
  refine failsOnly_bind (step .missingLabel) fun _ _ => failsOnly_bind (step .logLevel) fun _ _ => ?_
  have hkind : SettingKey.defaultBlockMinutes.kind.Holds block := holds_overridden hs hblock
  obtain ⟨n, rfl⟩ := hkind
  refine failsOnly_bind (failsOnly_ok _) fun _ _ => failsOnly_ite ?_ (failsOnly_ok _)
  refine failsOnly_bind ((Scalar.isRange_of_written _ _).mono fun _ => .inr) fun _ _ => ?_
  exact failsOnly_error (.inl ⟨_, rfl⟩)

/-- The entries of a file that holds a mapping. Where there is no file, or where it holds nothing,
there are none. -/
def entriesIn (read : Yaml.Reader) (file : String) (document : Option String) :
    Option (List (Scalar × Value)) :=
  match contents read file document with
  | .error _ => none
  | .ok v => match v.opened with
    | .map es => some es
    | _ => if v.isSet then none else some []

theorem isPrintable_contents (hread : ∀ s v, read s = .ok v → v.IsPrintable)
    (h : contents read file document = .ok v) : v.IsPrintable := by
  unfold contents at h
  split at h
  next =>
    cases h
    exact .scalar .null
  next t =>
    split at h
    next v hv =>
      cases h
      exact hread t v hv
    all_goals cases h

/-- The entries of a file are those of the mapping that it holds, if it holds anything. -/
theorem entriesIn_eq_some_iff : entriesIn read file document = some es ↔
    ∃ v, contents read file document = .ok v ∧
      (v.opened = .map es ∨ (∀ es', v.opened ≠ .map es') ∧ v.isSet = false ∧ es = []) := by
  unfold entriesIn
  cases contents read file document with
  | error failure => simp
  | ok v =>
    dsimp only
    split
    next es' hes => simp [hes]
    next hn =>
      have hn : ∀ es', v.opened ≠ .map es' := hn
      cases hset : v.isSet <;> simp [hn, hset, @eq_comm _ []]

/-- The entries of a file are taken over one by one. -/
theorem load_of_entriesIn (h : entriesIn read file document = some es) :
    load read file document env = Loaded.takeEntries file ⟨usual, []⟩ es >>= fun l => do
      return { l with settings := ← l.settings.override env } := by
  obtain ⟨v, hv, hes⟩ := entriesIn_eq_some_iff.mp h
  have hof : Loaded.ofContents file v = Loaded.takeEntries file ⟨usual, []⟩ es := by
    unfold Loaded.ofContents
    obtain hes | ⟨hn, hset, rfl⟩ := hes
    · rw [hes]
    · split
      next es' hes' => exact (hn es' hes').elim
      next => rw [hset]; rfl
  rw [← hof, load, hv]
  rfl

/-- All entries of a file can be written. -/
theorem isPrintable_of_entriesIn (hread : ∀ s v, read s = .ok v → v.IsPrintable)
    (h : entriesIn read file document = some es) : ∀ e ∈ es, e.2.IsPrintable := by
  obtain ⟨v, hv, hes | ⟨-, -, rfl⟩⟩ := entriesIn_eq_some_iff.mp h
  · exact fun e he => (isPrintable_contents hread hv).of_mem_entries hes he
  · exact List.forall_mem_nil _

/-- A mapping with the keys of all settings, in which each has the kind that it has by default. -/
def IsTypedMapping (v : Value) : Prop :=
  ∃ fields, v = .map fields ∧ fields.map Prod.fst = SettingKey.all.map (.text ·.name) ∧
    ∀ field ∈ fields, ∃ key : SettingKey, field.1 = .text key.name ∧
      key.kind.Holds (usual key) ∧ key.kind.Holds field.2

theorem isTypedMapping_toValue_iff : IsTypedMapping s.toValue ↔ s.IsTyped := by
  constructor
  · rintro ⟨fields, hfields, -, hall⟩ key
    obtain rfl := Value.map.inj hfields
    obtain ⟨other, hname, -, hholds⟩ := hall (.text key.name, s key)
      (List.mem_map.mpr ⟨_, List.mem_map_of_mem key.mem_all, rfl⟩)
    have hname : key.name = other.name := Scalar.text.inj hname
    obtain rfl : key = other :=
      Option.some.inj (key.ofName?_name.symm.trans (hname ▸ other.ofName?_name))
    exact hholds
  · intro h
    refine ⟨_, rfl, rfl, fun field hf => ?_⟩
    rw [List.map_map] at hf
    obtain ⟨key, -, rfl⟩ := List.mem_map.mp hf
    exact ⟨key, rfl, isTyped_usual key, h key⟩

/-- What a file and an environment give without null and without infinite blocks is loaded, each
setting of the kind that it has by default and blocks of some length, or refused with a reason. This
holds for every reader whose values can be written, integers of too many digits apart. -/
theorem load_isSound (hread : ∀ s v, read s = .ok v → v.IsPrintable)
    (hes : entriesIn read file document = some es)
    (hgiven : ∀ e ∈ es, Loaded.IsGiven e) (hbounded : ∀ e ∈ es, Loaded.IsBounded e)
    (henv : env.IsBounded) :
    (∃ failure, load read file document env = .error failure ∧ failure.IsRefusal) ∨
    ∃ l, load read file document env = .ok l ∧ IsTypedMapping l.settings.toValue ∧
      ∃ n : Int, 0 < n ∧ l.settings .defaultBlockMinutes = .scalar (.int n) := by
  have hp := isPrintable_of_entriesIn hread hes
  rw [load_of_entriesIn hes]
  cases htake : Loaded.takeEntries file ⟨usual, []⟩ es with
  | error failure => exact .inl ⟨failure, rfl, Loaded.failsOnly_takeEntries hp hbounded _ htake⟩
  | ok l =>
    have htyped := Loaded.isTyped_takeEntries isTyped_usual hgiven htake
    rw [ok_bind]
    cases hover : l.settings.override env with
    | error failure => exact .inl ⟨failure, rfl, failsOnly_override htyped henv _ hover⟩
    | ok s =>
      have hsound := isSound_override htyped hover
      exact .inr ⟨_, rfl, isTypedMapping_toValue_iff.mpr hsound.isTyped, hsound.block⟩

/-- A file that writes the length of blocks as a text, and names a setting that there is not. -/
def quotedBlock : String := "default_block_minutes: '90'\ncolour: red\n"

theorem load_isSound_quotedBlock : ∃ es,
    entriesIn Yaml.read "charts.yaml" (some quotedBlock) = some es ∧
    (∀ e ∈ es, Loaded.IsGiven e ∧ Loaded.IsBounded e) ∧
    Environment.IsBounded [("NOTE_CHARTS_MISSING_LABEL", "none")] ∧
    ∃ l, load Yaml.read "charts.yaml" (some quotedBlock)
        [("NOTE_CHARTS_MISSING_LABEL", "none")] = .ok l ∧
      IsTypedMapping l.settings.toValue ∧
      ∃ n : Int, 0 < n ∧ l.settings .defaultBlockMinutes = .scalar (.int n) := by
  have hany : (entriesIn Yaml.read "charts.yaml" (some quotedBlock)).any (fun es =>
      es.all fun e => Loaded.IsGiven e ∧ Loaded.IsBounded e) = true := by decide +kernel
  obtain ⟨es, hes, hall⟩ := (Option.any_eq_true _ _).mp hany
  have hall : ∀ e ∈ es, Loaded.IsGiven e ∧ Loaded.IsBounded e := by simpa using hall
  have henv : Environment.IsBounded [("NOTE_CHARTS_MISSING_LABEL", "none")] := by
    intro given h
    cases h
  have hloaded : failure? (load Yaml.read "charts.yaml" (some quotedBlock)
      [("NOTE_CHARTS_MISSING_LABEL", "none")]) = none := by decide +kernel
  refine ⟨es, hes, hall, henv, ?_⟩
  obtain ⟨failure, hf, -⟩ | h := load_isSound (fun _ _ => Yaml.isPrintable_read) hes
    (fun e he => (hall e he).1) (fun e he => (hall e he).2) henv
  · rw [failure?_eq_some_iff.mpr hf] at hloaded
    cases hloaded
  · exact h

/-- An infinite length of blocks overflows, be it in the file or in the environment; null takes the
place of any setting, and as a length of blocks it is of the wrong kind. -/
theorem load_infiniteBlock :
    load Yaml.read "charts.yaml" (some "default_block_minutes: .inf\n") [] = .error .overflow ∧
    load Yaml.read "charts.yaml" none [("NOTE_CHARTS_DEFAULT_BLOCK_MINUTES", "inf")] =
      .error .overflow ∧
    load Yaml.read "charts.yaml" (some "default_block_minutes: ~\n") [] = .error .wrongKind ∧
    (∃ l, load Yaml.read "charts.yaml" (some "missing_label: ~\n") [] = .ok l ∧
      ¬ IsTypedMapping l.settings.toValue) ∧
    ¬ Failure.overflow.IsRefusal ∧ ¬ Failure.wrongKind.IsRefusal := by
  have hfailure : ∀ failure : Failure, failure = .overflow ∨ failure = .wrongKind →
      ¬ failure.IsRefusal := by
    rintro _ (rfl | rfl) (⟨_, h⟩ | ⟨_, h⟩) <;> cases h
  refine ⟨?_, ?_, ?_, ?_, hfailure _ (.inl rfl), hfailure _ (.inr rfl)⟩
  · exact failure?_eq_some_iff.mp (by decide +kernel)
  · exact failure?_eq_some_iff.mp (by decide +kernel)
  · exact failure?_eq_some_iff.mp (by decide +kernel)
  · have hnull : (load Yaml.read "charts.yaml" (some "missing_label: ~\n") []).toOption.any
        (fun l => (l.settings .missingLabel).isNull) = true := by decide +kernel
    cases h : load Yaml.read "charts.yaml" (some "missing_label: ~\n") [] with
    | error failure =>
      rw [h] at hnull
      cases hnull
    | ok l =>
      rw [h] at hnull
      refine ⟨l, rfl, fun hl => ?_⟩
      have hholds := SettingKey.isNull_of_holds (isTypedMapping_toValue_iff.mp hl .missingLabel)
      exact Bool.false_ne_true (hholds.symm.trans hnull)

end Settings
end NotePlot
