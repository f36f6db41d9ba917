import NotePlot.Failure
/-! What an outcome can fail for, step by step: the failure of a whole is that of the step that
fails, after the steps before it have answered. -/
namespace NotePlot.Outcome

variable {α β : Type} {P Q : Failure → Prop} {x : Outcome α} {f : α → Outcome β}

/-- An outcome that fails, if it does, with a failure of this sort. -/
def FailsOnly (P : Failure → Prop) (x : Outcome α) : Prop := ∀ failure, x = .error failure → P failure

/-- An answer in two steps fails with the failure of the step that fails. -/
theorem bind_eq_error {failure : Failure} : (x >>= f) = .error failure ↔
    x = .error failure ∨ ∃ a, x = .ok a ∧ f a = .error failure := by
  cases x with
  | ok a => simp
  | error other =>
    constructor
    · rintro ⟨⟩
      exact .inl rfl
    · rintro (h | ⟨_, h, _⟩)
      · cases h
        rfl
      · cases h

theorem failsOnly_ok (a : α) : FailsOnly P (.ok a) := nofun

theorem failsOnly_error {failure : Failure} (h : P failure) :
    FailsOnly P (.error failure : Outcome α) := by
  rintro _ ⟨⟩
  exact h

theorem FailsOnly.mono (h : FailsOnly P x) (hs : ∀ failure, P failure → Q failure) :
    FailsOnly Q x :=
  fun failure hf => hs failure (h failure hf)

/-- The failure of an outcome, if it fails. -/
def failure? : Outcome α → Option Failure
  | .ok _ => none
  | .error failure => some failure

theorem failure?_eq_some_iff {failure : Failure} : failure? x = some failure ↔ x = .error failure := by
  cases x <;> simp [failure?]

theorem ne_error_of_failure? {failure : Failure} (h : failure? x ≠ some failure) :
    x ≠ .error failure :=
  fun he => h (failure?_eq_some_iff.mpr he)

theorem exists_ok_of_failure? (h : failure? x = none) : ∃ a, x = .ok a := by
  cases x with
  | ok a => exact ⟨a, rfl⟩
  | error failure => cases h

theorem toOption_eq_some_iff {ε : Type} {r : Except ε α} {a : α} :
    r.toOption = some a ↔ r = .ok a := by
  cases r <;> simp [Except.toOption]

/-- An outcome that is a failure, for whatever cause. -/
def Fails (x : Outcome α) : Prop := ∃ failure, x = .error failure

theorem not_fails_ok (a : α) : ¬ Fails (.ok a) := nofun

theorem fails_error (failure : Failure) : Fails (.error failure : Outcome α) := ⟨failure, rfl⟩

theorem fails_or_ok (x : Outcome α) : Fails x ∨ ∃ a, x = .ok a := by
  cases x with
  | ok a => exact .inr ⟨a, rfl⟩
  | error failure => exact .inl (fails_error failure)

theorem fails_congr {y : Outcome α} (h : ∀ a, x = .ok a ↔ y = .ok a) : Fails x ↔ Fails y := by
  cases x with
  | ok a =>
    rw [(h a).mp rfl]
  | error failure =>
    cases y with
    | ok a => cases (h a).mpr rfl
    | error other => exact iff_of_true (fails_error _) (fails_error _)

theorem fails_bind_iff : Fails (x >>= f) ↔ Fails x ∨ ∃ a, x = .ok a ∧ Fails (f a) := by
  cases x with
  | ok a => simp [not_fails_ok]
  | error failure => exact iff_of_true (fails_error failure) (.inl (fails_error failure))

/-- What fails for nothing has an answer. -/
theorem FailsOnly.exists_ok (h : FailsOnly P x) (hn : ∀ failure, ¬ P failure) : ∃ a, x = .ok a := by
  cases x with
  | ok a => exact ⟨a, rfl⟩
  | error failure => exact (hn failure (h failure rfl)).elim

theorem failsOnly_of_ok {a : α} (h : x = .ok a) : FailsOnly P x := by
  rw [h]
  exact failsOnly_ok a

/-- Two steps fail where the first does, or where the second does after an answer of the first. -/
theorem failsOnly_bind (hx : FailsOnly P x) (hf : ∀ a, x = .ok a → FailsOnly P (f a)) :
    FailsOnly P (x >>= f) := by
  cases x with
  | ok a => exact hf a rfl
  | error failure => exact failsOnly_error (hx failure rfl)

theorem failsOnly_bind_of_ok {a : α} (hx : x = .ok a) (hf : FailsOnly P (f a)) :
    FailsOnly P (x >>= f) := by
  rw [hx]
  exact hf

theorem failsOnly_map {g : α → β} (hx : FailsOnly P x) : FailsOnly P (x.map g) := by
  cases x with
  | ok a => exact failsOnly_ok _
  | error failure => exact failsOnly_error (hx failure rfl)

theorem failsOnly_ite {p : Prop} [Decidable p] {y : Outcome α} (hx : FailsOnly P x)
    (hy : FailsOnly P y) : FailsOnly P (if p then x else y) := by
  split
  · exact hx
  · exact hy

theorem failsOnly_mapM {g : α → Outcome β} {as : List α} (h : ∀ a ∈ as, FailsOnly P (g a)) :
    FailsOnly P (as.mapM g) := by
  induction as with
  | nil => exact failsOnly_ok _
  | cons a as ih =>
    obtain ⟨ha, hrest⟩ := List.forall_mem_cons.mp h
    rw [List.mapM_cons]
    exact failsOnly_bind ha fun _ _ => failsOnly_bind (ih hrest) fun _ _ => failsOnly_ok _

end NotePlot.Outcome
