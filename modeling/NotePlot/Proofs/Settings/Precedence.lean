import NotePlot.Proofs.Settings.Typed
import NotePlot.Proofs.Yaml.Keys
/-! Precedence: of each setting, its variable in the environment counts before its entry in the
file, and that before what is usual. No other entry, no other variable and no order plays a part. -/
namespace NotePlot

open Outcome

variable {v : Value} {key : SettingKey} {s s' : Settings} {l l' : Loaded} {file name : String}
  {read : Yaml.Reader} {document : Option String}
  {es es' : List (Scalar × Value)} {k : Scalar} {e : Scalar × Value} {env env' : Environment}

theorem Scalar.isSameKey_text (t : String) : (Scalar.text t).isSameKey (.text t) := by
  simp [isSameKey, integer?]

theorem Value.lookup?_cons_of_ne (h : e.1 ≠ .text name) : lookup? (e :: es) name = lookup? es name := by
  unfold lookup?
  rw [List.find?_cons_of_neg (by simpa using h)]

/-- Where all keys differ, what is looked up is the one entry under its key. -/
theorem Value.lookup?_eq_some_iff (h : AreKeyed es) :
    lookup? es name = some v ↔ (.text name, v) ∈ es := by
  constructor
  · intro hv
    obtain ⟨e, he, rfl⟩ := Option.map_eq_some_iff.mp hv
    have hname : e.1 = .text name := by simpa using List.find?_some he
    exact hname ▸ List.mem_of_find?_eq_some he
  · intro hmem
    induction h with
    | nil => cases hmem
    | @cons e es hdiffer _ ih =>
      obtain rfl | hmem := List.mem_cons.mp hmem
      · rw [lookup?, List.find?_cons_of_pos (by simp)]
        rfl
      · have hne : e.1 ≠ .text name := fun he =>
          hdiffer _ hmem (he ▸ Scalar.isSameKey_text name)
        rw [lookup?_cons_of_ne hne]
        exact ih hmem

namespace SettingKey

theorem ofScalar?_eq_some_iff : ofScalar? k = some key ↔ k = .text key.name := by
  constructor
  · intro h
    cases k with
    | text t =>
      have ht : key.name = t := by simpa using List.find?_some h
      rw [ht]
    | _ => cases h
  · rintro rfl
    exact key.ofName?_name

/-- What the environment gives for a setting. -/
def given? (key : SettingKey) (env : Environment) : Option String :=
  key.override?.bind fun name => List.lookup name env

/-- What a file gives for a setting. A value that does not fit counts as none. -/
def inFile? (key : SettingKey) (es : List (Scalar × Value)) : Option Value :=
  (Value.lookup? es key.name).bind fun v => (key.kind.coerce v).toOption

/-- The value of a setting, given by the environment, or else by the file, or else the usual one. -/
def decided (key : SettingKey) (es : List (Scalar × Value)) (env : Environment) : Outcome Value :=
  match key.given? env with
  | some given => key.kind.coerce (.text given)
  | none => .ok ((key.inFile? es).getD key.usual)

theorem fails_decided_iff : Fails (key.decided es env) ↔
    ∃ given, key.given? env = some given ∧ Fails (key.kind.coerce (.text given)) := by
  unfold decided
  cases key.given? env with
  | none => simp [not_fails_ok]
  | some given => simp

/-- Two files and environments give the same for a setting. -/
def HasSameSources (key : SettingKey) (es es' : List (Scalar × Value)) (env env' : Environment) :
    Prop :=
  (∀ v, (.text key.name, v) ∈ es ↔ (.text key.name, v) ∈ es') ∧ key.given? env = key.given? env'

theorem HasSameSources.symm (h : key.HasSameSources es es' env env') :
    key.HasSameSources es' es env' env :=
  ⟨fun v => (h.1 v).symm, h.2.symm⟩

theorem decided_congr (hes : AreKeyed es) (hes' : AreKeyed es')
    (h : key.HasSameSources es es' env env') : key.decided es env = key.decided es' env' := by
  have hlookup : Value.lookup? es key.name = Value.lookup? es' key.name := by
    refine Option.ext fun v => ?_
    rw [Value.lookup?_eq_some_iff hes, Value.lookup?_eq_some_iff hes']
    exact h.1 v
  unfold decided inFile?
  rw [hlookup, h.2]

/-- Where a value does not fit for another reason than its kind, the setting is critical, or the
value has no text. -/
theorem isCritical_or_of_coerce {failure : Failure} (h : key.kind.coerce v = .error failure)
    (hf : ¬ failure.IsUnfit) : key.isCritical ∨ Fails v.display := by
  unfold SettingKind.coerce at h
  split at h
  next => cases h
  next =>
    obtain rfl | hk | hk := key.kind_cases
    · exact .inl rfl
    · rw [hk] at h
      obtain h | ⟨_, _, h⟩ := bind_eq_error.mp h
      · exact .inr ⟨failure, h⟩
      · cases h
    · rw [hk] at h
      exact (hf (SettingKind.failsOnly_toList v failure h)).elim

end SettingKey

theorem Settings.set_self (s : Settings) (key : SettingKey) : s.set key (s key) = s := by
  funext k
  by_cases hk : k = key
  · rw [hk, set_same]
  · rw [set_other s _ hk]

namespace Loaded

/-- A value that fits becomes the setting; any other leaves it as it was. -/
theorem settings_takeKnown (h : l.takeKnown key v = .ok l') :
    l'.settings = l.settings.set key ((key.kind.coerce v).toOption.getD (l.settings key)) := by
  unfold takeKnown at h
  split at h
  next w hw =>
    cases h
    rw [hw]
    rfl
  next fault hf =>
    obtain ⟨shown, -, h⟩ := bind_eq_ok.mp h
    split at h <;> cases h
    rw [hf]
    exact (l.settings.set_self key).symm
  next => cases h

/-- A value that does not fit is refused where the setting is critical, or where a warning cannot
show the value. -/
theorem fails_takeKnown_iff : Fails (l.takeKnown key v) ↔
    Fails (key.kind.coerce v) ∧ (key.isCritical ∨ Fails v.display) := by
  unfold takeKnown
  split
  next w hw =>
    rw [hw]
    exact iff_of_false (not_fails_ok _) fun h => not_fails_ok _ h.1
  next fault hf =>
    rw [hf, fails_bind_iff]
    constructor
    · rintro (h | ⟨shown, -, h⟩)
      · exact ⟨fails_error _, .inr h⟩
      · split at h
        next hcritical => exact ⟨fails_error _, .inl hcritical⟩
        next => exact (not_fails_ok _ h).elim
    · rintro ⟨-, hcritical | hdisplay⟩
      · obtain hdisplay | ⟨shown, hdisplay⟩ := fails_or_ok v.display
        · exact .inl hdisplay
        · refine .inr ⟨shown, hdisplay, ?_⟩
          rw [if_pos hcritical]
          exact fails_error _
      · exact .inl hdisplay
  next failure hn hf =>
    refine iff_of_true (fails_error _) ⟨⟨failure, hf⟩, ?_⟩
    exact SettingKey.isCritical_or_of_coerce hf fun ⟨fault, h⟩ => hn fault h

/-- An entry that is not taken over: a value that does not fit and whose setting is critical or
which has no text, or a key without a setting that has no text. -/
def IsRefused (e : Scalar × Value) : Prop :=
  match SettingKey.ofScalar? e.1 with
  | some key => Fails (key.kind.coerce e.2) ∧ (key.isCritical ∨ Fails e.2.display)
  | none => e.1.isWritable = false

/-- A warning about an entry cannot show it, as its key or value has no text. -/
def IsMute (e : Scalar × Value) : Prop :=
  match SettingKey.ofScalar? e.1 with
  | some key => key.isCritical = false ∧ Fails (key.kind.coerce e.2) ∧ Fails e.2.display
  | none => e.1.isWritable = false

/-- What is refused is a length of blocks that does not fit, or what a warning cannot show. -/
theorem isRefused_iff : IsRefused e ↔ IsMute e ∨ e.1 = .text SettingKey.defaultBlockMinutes.name ∧
    Fails (SettingKey.defaultBlockMinutes.kind.coerce e.2) := by
  rw [← SettingKey.ofScalar?_eq_some_iff]
  unfold IsRefused IsMute
  cases SettingKey.ofScalar? e.1 with
  | none => simp
  | some key => by_cases hkey : key = .defaultBlockMinutes <;> simp [SettingKey.isCritical, hkey]

theorem fails_takeEntry_iff : Fails (l.takeEntry file k v) ↔ IsRefused (k, v) := by
  unfold takeEntry IsRefused
  dsimp only
  cases SettingKey.ofScalar? k with
  | some key => exact fails_takeKnown_iff
  | none =>
    dsimp only
    cases hw : k.isWritable with
    | false =>
      rw [Scalar.written_eq_error _ hw]
      exact iff_of_true (fails_error _) rfl
    | true =>
      rw [Scalar.written_eq_ok _ hw]
      exact iff_of_false (not_fails_ok _) (by simp)

theorem settings_takeEntry (h : l.takeEntry file k v = .ok l') (key : SettingKey) :
    l'.settings key = if k = .text key.name then
      (key.kind.coerce v).toOption.getD (l.settings key) else l.settings key := by
  unfold takeEntry at h
  split at h
  next other hk =>
    rw [settings_takeKnown h]
    by_cases hkey : k = .text key.name
    · obtain rfl : other = key :=
        Option.some.inj (hk.symm.trans (SettingKey.ofScalar?_eq_some_iff.mpr hkey))
      rw [if_pos hkey, Settings.set_same]
    · have hne : key ≠ other := fun he => hkey (he ▸ SettingKey.ofScalar?_eq_some_iff.mp hk)
      rw [if_neg hkey, Settings.set_other _ _ hne]
  next hk =>
    obtain ⟨shown, -, h⟩ := bind_eq_ok.mp h
    cases h
    have hkey : k ≠ .text key.name := fun he => by
      rw [SettingKey.ofScalar?_eq_some_iff.mpr he] at hk
      cases hk
    rw [if_neg hkey]
    rfl

/-- After all entries of a file, a setting is what its own entry makes of it. -/
theorem settings_takeEntries (hes : AreKeyed es) (h : takeEntries file l es = .ok l')
    (key : SettingKey) : l'.settings key = (key.inFile? es).getD (l.settings key) := by
  induction hes generalizing l with
  | nil =>
    cases h
    rfl
  | @cons e es hdiffer hes ih =>
    obtain ⟨l₁, h₁, h⟩ := bind_eq_ok.mp h
    rw [ih h, settings_takeEntry h₁ key]
    unfold SettingKey.inFile?
    by_cases he : e.1 = .text key.name
    · have hnone : Value.lookup? es key.name = none := by
        refine Option.eq_none_iff_forall_ne_some.mpr fun w hw => ?_
        refine hdiffer _ ((Value.lookup?_eq_some_iff hes).mp hw) ?_
        rw [he]
        exact Scalar.isSameKey_text _
      have hsome : Value.lookup? (e :: es) key.name = some e.2 :=
        (Value.lookup?_eq_some_iff (.cons hdiffer hes)).mpr (he ▸ List.mem_cons_self)
      rw [if_pos he, hnone, hsome]
      rfl
    · rw [if_neg he, Value.lookup?_cons_of_ne he]

/-- A file is refused for one of its entries, whichever come before it. -/
theorem fails_takeEntries_iff : Fails (takeEntries file l es) ↔ ∃ e ∈ es, IsRefused e := by
  induction es generalizing l with
  | nil => simp [takeEntries, not_fails_ok]
  | cons e es ih =>
    rw [takeEntries, fails_bind_iff, fails_takeEntry_iff]
    constructor
    · rintro (he | ⟨l₁, -, h⟩)
      · exact ⟨e, List.mem_cons_self, he⟩
      · obtain ⟨other, hother, h⟩ := ih.mp h
        exact ⟨other, List.mem_cons_of_mem _ hother, h⟩
    · rintro ⟨other, hother, h⟩
      obtain hfails | ⟨l₁, hl₁⟩ := fails_or_ok (l.takeEntry file e.1 e.2)
      · exact .inl (fails_takeEntry_iff.mp hfails)
      · obtain rfl | hother := List.mem_cons.mp hother
        · exact .inl h
        · exact .inr ⟨l₁, hl₁, ih.mpr ⟨other, hother, h⟩⟩

end Loaded

namespace Settings

theorem overridden_eq_ok_iff (hs : s.IsTyped) (hfile : s key = (key.inFile? es).getD key.usual) :
    s.overridden env key = .ok v ↔ key.decided es env = .ok v := by
  unfold overridden SettingKey.decided
  rw [SettingKey.isNull_of_holds (hs key), if_neg Bool.false_ne_true, hfile]
  unfold SettingKey.given?
  cases key.override? with
  | none => rfl
  | some name =>
    dsimp only [Option.bind_some]
    cases List.lookup name env with
    | none => rfl
    | some given =>
      dsimp only [Option.map_some]
      split
      next fault hf =>
        rw [hf]
        exact ⟨nofun, nofun⟩
      next => rfl

/-- Texts and lists are read from any variable. -/
theorem exists_overridden (hs : s.IsTyped) (env : Environment) (key : SettingKey)
    (hkey : key ≠ .defaultBlockMinutes) : ∃ v, s.overridden env key = .ok v := by
  unfold overridden
  split
  next name given _ =>
    rw [SettingKey.isNull_of_holds (hs key), if_neg Bool.false_ne_true]
    obtain rfl | hk | hk := key.kind_cases
    · exact (hkey rfl).elim
    · rw [hk]
      exact ⟨.text given, rfl⟩
    · rw [hk]
      exact ⟨.texts (SettingKind.listed given.toList), rfl⟩
  next => exact ⟨s key, rfl⟩

theorem overridden_of_override (h : s.override env = .ok s') (key : SettingKey) :
    s.overridden env key = .ok (s' key) := by
  obtain ⟨paths, hpaths, h⟩ := bind_eq_ok.mp h
  obtain ⟨block, hblock, h⟩ := bind_eq_ok.mp h
  obtain ⟨missing, hmissing, h⟩ := bind_eq_ok.mp h
  obtain ⟨level, hlevel, h⟩ := bind_eq_ok.mp h
  obtain ⟨isPositive, hpositive, h⟩ := bind_eq_ok.mp h
  split at h
  next =>
    obtain ⟨shown, -, h⟩ := bind_eq_ok.mp h
    cases h
  next =>
    cases h
    cases key with
    | defaultPaths => exact hpaths
    | defaultBlockMinutes => exact hblock
    | missingLabel => exact hmissing
    | logLevel => exact hlevel
    | _ => rfl

/-- Overriding fails for the length of blocks alone. -/
theorem fails_override_iff (hs : s.IsTyped) : Fails (s.override env) ↔
    Fails (s.overridden env .defaultBlockMinutes) ∨
    ∃ n : Int, n ≤ 0 ∧ s.overridden env .defaultBlockMinutes = .ok (.scalar (.int n)) := by
  obtain ⟨paths, hpaths⟩ := exists_overridden hs env .defaultPaths nofun
  obtain ⟨missing, hmissing⟩ := exists_overridden hs env .missingLabel nofun
  obtain ⟨level, hlevel⟩ := exists_overridden hs env .logLevel nofun
  have hpositive (n : Int) : isPositive (.scalar (.int n)) = .ok (decide (0 < n)) := rfl
  rw [override, hpaths, ok_bind, fails_bind_iff]
  refine or_congr Iff.rfl ⟨?_, ?_⟩
  · rintro ⟨block, hblock, h⟩
    have hkind : SettingKey.defaultBlockMinutes.kind.Holds block := holds_overridden hs hblock
    obtain ⟨n, rfl⟩ := hkind
    rw [hmissing, ok_bind, hlevel, ok_bind, hpositive, ok_bind] at h
    split at h
    next hn => exact ⟨n, by simpa using hn, hblock⟩
    next => exact (not_fails_ok _ h).elim
  · rintro ⟨n, hn, hblock⟩
    refine ⟨_, hblock, ?_⟩
    rw [hmissing, ok_bind, hlevel, ok_bind, hpositive, ok_bind, if_pos (by simpa using hn),
      fails_bind_iff]
    obtain hdisplay | ⟨shown, hdisplay⟩ := fails_or_ok (Value.scalar (.int n)).display
    · exact .inl hdisplay
    · exact .inr ⟨shown, hdisplay, fails_error _⟩

theorem isKeyed_contents (hread : ∀ s v, read s = .ok v → v.IsKeyed)
    (h : contents read file document = .ok v) : v.IsKeyed := by
  unfold contents at h
  split at h
  next =>
    cases h
    trivial
  next t =>
    split at h
    next v hv =>
      cases h
      exact hread t v hv
    all_goals cases h

theorem areKeyed_of_entriesIn (hread : ∀ s v, read s = .ok v → v.IsKeyed)
    (h : entriesIn read file document = some es) : AreKeyed es := by
  obtain ⟨v, hv, hes | ⟨-, -, rfl⟩⟩ := entriesIn_eq_some_iff.mp h
  · have hopened := (isKeyed_contents hread hv).opened
    rw [hes] at hopened
    exact hopened
  · exact .nil

/-- Why settings are not loaded: the length of blocks does not fit where the file or the environment
gives it, or takes no time, or a warning cannot show what it is about. -/
inductive IsStopped (es : List (Scalar × Value)) (env : Environment) : Prop
  | file {v : Value} (hv : (.text SettingKey.defaultBlockMinutes.name, v) ∈ es)
      (h : Fails (SettingKey.defaultBlockMinutes.kind.coerce v))
  | environment {given : String} (hg : SettingKey.defaultBlockMinutes.given? env = some given)
      (h : Fails (SettingKey.defaultBlockMinutes.kind.coerce (.text given)))
  | block {n : Int} (hn : n ≤ 0)
      (h : SettingKey.defaultBlockMinutes.decided es env = .ok (.scalar (.int n)))
  | mute {e : Scalar × Value} (he : e ∈ es) (h : Loaded.IsMute e)

/-- Settings that are taken over and overridden are those that are decided. -/
theorem decided_of_load (hread : ∀ s v, read s = .ok v → v.IsKeyed)
    (hes : entriesIn read file document = some es)
    (hgiven : ∀ e ∈ es, Loaded.IsGiven e) (h : load read file document env = .ok l)
    (key : SettingKey) : key.decided es env = .ok (l.settings key) := by
  rw [load_of_entriesIn hes] at h
  obtain ⟨l₁, h₁, h⟩ := bind_eq_ok.mp h
  obtain ⟨s, hs, h⟩ := bind_eq_ok.mp h
  cases h
  have htyped := Loaded.isTyped_takeEntries isTyped_usual hgiven h₁
  have hfile := Loaded.settings_takeEntries (areKeyed_of_entriesIn hread hes) h₁ key
  exact (overridden_eq_ok_iff htyped hfile).mp (overridden_of_override hs key)

theorem fails_load_iff (hread : ∀ s v, read s = .ok v → v.IsKeyed)
    (hes : entriesIn read file document = some es)
    (hgiven : ∀ e ∈ es, Loaded.IsGiven e) :
    Fails (load read file document env) ↔ IsStopped es env := by
  have hstop : Fails (load read file document env) ↔ (∃ e ∈ es, Loaded.IsRefused e) ∨
      ∃ l, Loaded.takeEntries file ⟨usual, []⟩ es = .ok l ∧ Fails (l.settings.override env) := by
    rw [load_of_entriesIn hes, fails_bind_iff, Loaded.fails_takeEntries_iff]
    simp only [fails_bind_iff, pure_eq_ok, not_fails_ok, and_false, exists_false, or_false]
  have hover {l : Loaded} (hl : Loaded.takeEntries file ⟨usual, []⟩ es = .ok l) :
      Fails (l.settings.override env) ↔ Fails (SettingKey.defaultBlockMinutes.decided es env) ∨
      ∃ n : Int, n ≤ 0 ∧ SettingKey.defaultBlockMinutes.decided es env = .ok (.scalar (.int n)) := by
    have htyped := Loaded.isTyped_takeEntries isTyped_usual hgiven hl
    have hkeyed := areKeyed_of_entriesIn hread hes
    have hfile := Loaded.settings_takeEntries hkeyed hl .defaultBlockMinutes
    have hdecided (v : Value) : l.settings.overridden env .defaultBlockMinutes = .ok v ↔
        SettingKey.defaultBlockMinutes.decided es env = .ok v := overridden_eq_ok_iff htyped hfile
    rw [fails_override_iff htyped, fails_congr hdecided]
    simp only [hdecided]
  rw [hstop]
  constructor
  · rintro (⟨e, he, hrefused⟩ | ⟨l, hl, h⟩)
    · obtain hmute | ⟨hkey, hfails⟩ := Loaded.isRefused_iff.mp hrefused
      · exact .mute he hmute
      · exact .file (hkey ▸ he) hfails
    · obtain h | ⟨n, hn, h⟩ := (hover hl).mp h
      · obtain ⟨given, hg, h⟩ := SettingKey.fails_decided_iff.mp h
        exact .environment hg h
      · exact .block hn h
  · intro hstopped
    obtain htake | ⟨l, hl⟩ := fails_or_ok (Loaded.takeEntries file ⟨usual, []⟩ es)
    · exact .inl (Loaded.fails_takeEntries_iff.mp htake)
    · cases hstopped with
      | file hv h => exact .inl ⟨_, hv, Loaded.isRefused_iff.mpr (.inr ⟨rfl, h⟩)⟩
      | environment hg h =>
        exact .inr ⟨l, hl, (hover hl).mpr (.inl (SettingKey.fails_decided_iff.mpr ⟨_, hg, h⟩))⟩
      | block hn h => exact .inr ⟨l, hl, (hover hl).mpr (.inr ⟨_, hn, h⟩)⟩
      | mute he h => exact .inl ⟨_, he, Loaded.isRefused_iff.mpr (.inl h)⟩

/-- Files that give the same for each setting stop for the same, but for what is mute in them. -/
theorem IsStopped.congr (hes : AreKeyed es) (hes' : AreKeyed es')
    (hsame : ∀ key : SettingKey, key.HasSameSources es es' env env')
    (hmute : ∀ e ∈ es, ¬ Loaded.IsMute e) (h : IsStopped es env) : IsStopped es' env' := by
  obtain ⟨hfile, hgiven⟩ := hsame .defaultBlockMinutes
  cases h with
  | file hv h => exact .file ((hfile _).mp hv) h
  | environment hg h => exact .environment (hgiven ▸ hg) h
  | block hn h =>
    exact .block hn (SettingKey.decided_congr hes hes' (hsame _) ▸ h)
  | mute he h => exact (hmute _ he h).elim

/-- Each setting is decided by its variable, its entry and what is usual, in this order, and by
nothing else: neither other keys nor their order play a part. Loading fails for the length of
blocks, or because a warning cannot be written. This holds for every reader whose mappings have
different keys. -/
theorem load_decides (hread : ∀ s v, read s = .ok v → v.IsKeyed)
    (hes : entriesIn read file document = some es)
    (hgiven : ∀ e ∈ es, Loaded.IsGiven e) :
    (∀ l, load read file document env = .ok l → ∀ key : SettingKey,
      key.decided es env = .ok (l.settings key)) ∧
    (Fails (load read file document env) ↔ IsStopped es env) ∧
    ∀ file' document' es' env', entriesIn read file' document' = some es' →
      (∀ e ∈ es', Loaded.IsGiven e) →
      (∀ l l', load read file document env = .ok l → load read file' document' env' = .ok l' →
        ∀ key : SettingKey, key.HasSameSources es es' env env' → l.settings key = l'.settings key) ∧
      ((∀ key : SettingKey, key.HasSameSources es es' env env') →
        (∀ e ∈ es ++ es', ¬ Loaded.IsMute e) →
        (Fails (load read file document env) ↔ Fails (load read file' document' env'))) := by
  have hkeyed := areKeyed_of_entriesIn hread hes
  refine ⟨fun l => decided_of_load hread hes hgiven, fails_load_iff hread hes hgiven, ?_⟩
  intro file' document' es' env' hes' hgiven'
  have hkeyed' := areKeyed_of_entriesIn hread hes'
  constructor
  · intro l l' hl hl' key hsame
    have h := SettingKey.decided_congr hkeyed hkeyed' hsame
    rw [decided_of_load hread hes hgiven hl, decided_of_load hread hes' hgiven' hl'] at h
    exact Except.ok.inj h
  · intro hsame hmute
    rw [fails_load_iff hread hes hgiven, fails_load_iff hread hes' hgiven']
    exact ⟨.congr hkeyed hkeyed' hsame fun e he => hmute e (List.mem_append_left _ he),
      .congr hkeyed' hkeyed (fun key => (hsame key).symm) fun e he =>
        hmute e (List.mem_append_right _ he)⟩

/-- A file with a label, with the length of blocks as a text, and with a setting that there is not.
-/
def labelled : String := "missing_label: '?'\ncolour: red\ndefault_block_minutes: '90'\n"

theorem load_decides_overriddenLabel : ∃ es l,
    entriesIn Yaml.read "charts.yaml" (some labelled) = some es ∧ (∀ e ∈ es, Loaded.IsGiven e) ∧
    load Yaml.read "charts.yaml" (some labelled) [("NOTE_CHARTS_MISSING_LABEL", "none")] = .ok l ∧
    l.settings .missingLabel = .text "none" ∧
    ∀ key : SettingKey,
      key.decided es [("NOTE_CHARTS_MISSING_LABEL", "none")] = .ok (l.settings key) := by
  have hany : (entriesIn Yaml.read "charts.yaml" (some labelled)).any
      (fun es => es.all fun e => Loaded.IsGiven e) = true := by decide +kernel
  obtain ⟨es, hes, hall⟩ := (Option.any_eq_true _ _).mp hany
  have hgiven : ∀ e ∈ es, Loaded.IsGiven e := by simpa using hall
  obtain ⟨l, hl⟩ : ∃ l, load Yaml.read "charts.yaml" (some labelled)
      [("NOTE_CHARTS_MISSING_LABEL", "none")] = .ok l := exists_ok_of_failure? (by decide +kernel)
  have hdecided := (load_decides (fun _ _ => Yaml.isKeyed_read) hes hgiven).1 l hl
  have hlabel : SettingKey.missingLabel.decided es [("NOTE_CHARTS_MISSING_LABEL", "none")] =
      .ok (.text "none") := rfl
  exact ⟨es, l, hes, hgiven, hl, (Except.ok.inj (hlabel.symm.trans (hdecided _))).symm, hdecided⟩

/-- A label that is an integer of too many digits is no label, and the warning about it cannot show
it either, although the length of blocks is the usual one. -/
theorem load_longLabel :
    Loaded.ofContents "charts.yaml"
      (.ofFields [("missing_label", .scalar (.int (Nat.pow 16 3600 : Nat)))]) =
      .error (.range .integerTooLong) ∧
    (∀ read document env, contents read "charts.yaml" document =
        .ok (.ofFields [("missing_label", .scalar (.int (Nat.pow 16 3600 : Nat)))]) →
      load read "charts.yaml" document env = .error (.range .integerTooLong)) ∧
    SettingKey.defaultBlockMinutes.decided
      [(.text "missing_label", .scalar (.int (Nat.pow 16 3600 : Nat)))] [] =
      .ok (.scalar (.int 60)) := by
  have hlong : Scalar.unwritable ≤ Nat.pow 16 3600 := by decide +kernel
  generalize Nat.pow 16 3600 = n at hlong ⊢
  have hdisplay : (Value.scalar (.int n)).display = .error (.range .integerTooLong) :=
    Scalar.written_eq_error _ (by simpa [Scalar.isWritable] using hlong)
  have hcontents : Loaded.ofContents "charts.yaml"
      (.ofFields [("missing_label", .scalar (.int n))]) = .error (.range .integerTooLong) := by
    have hcoerce : SettingKey.missingLabel.kind.coerce (.scalar (.int n)) =
        .error (.range .integerTooLong) := by
      change (Value.scalar (.int n)).display >>= _ = _
      rw [hdisplay]
      rfl
    have htake : Loaded.takeKnown ⟨usual, []⟩ .missingLabel (.scalar (.int n)) =
        .error (.range .integerTooLong) := by
      rw [Loaded.takeKnown, hcoerce]
    change Loaded.takeKnown ⟨usual, []⟩ .missingLabel (.scalar (.int n)) >>= _ = _
    rw [htake]
    rfl
  refine ⟨hcontents, fun read document env h => ?_, rfl⟩
  rw [load, h, ok_bind, hcontents]
  rfl

end Settings
end NotePlot
