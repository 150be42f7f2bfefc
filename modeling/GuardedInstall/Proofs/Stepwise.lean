import Mathlib.Data.List.Forall2

/-!
# Computations that stop at the first error

A computation in steps comes to an error at its first step that does, or at a later one
after a result of the first. An error that no step comes to is no error of the whole.
-/

namespace GuardedInstall.Stepwise

variable {ε ε' α β : Type}

@[simp]
theorem ok_bind (value : α) (next : α → Except ε β) : Except.ok value >>= next = next value :=
  rfl

@[simp]
theorem error_bind (error : ε) (next : α → Except ε β) :
    Except.error error >>= next = .error error :=
  rfl

theorem bind_eq_error_iff {first : Except ε α} {next : α → Except ε β} {error : ε} :
    first >>= next = .error error ↔
      first = .error error ∨ ∃ value, first = .ok value ∧ next value = .error error := by
  cases first with
  | error other => simp
  | ok value => simp

theorem bind_eq_ok_iff {first : Except ε α} {next : α → Except ε β} {result : β} :
    first >>= next = .ok result ↔ ∃ value, first = .ok value ∧ next value = .ok result := by
  cases first with
  | error other => simp
  | ok value => simp

theorem mapError_eq_error_iff {step : Except ε α} {change : ε → ε'} {error : ε'} :
    step.mapError change = .error error ↔
      ∃ cause, step = .error cause ∧ change cause = error := by
  cases step with
  | error cause =>
      constructor
      · rintro ⟨⟩
        exact ⟨cause, rfl, rfl⟩
      · rintro ⟨_, ⟨⟩, rfl⟩
        rfl
  | ok value =>
      constructor
      · rintro ⟨⟩
      · rintro ⟨_, ⟨⟩, -⟩

theorem map_eq_error_iff {step : Except ε α} {change : α → β} {error : ε} :
    change <$> step = .error error ↔ step = .error error := by
  cases step with
  | error cause => simp [Functor.map, Except.map]
  | ok value => simp [Functor.map, Except.map]

/-- A step for what may be missing comes to a result if there is nothing, or the step does. -/
theorem option_mapM_eq_ok_iff {step : α → Except ε β} {value? : Option α} {result? : Option β} :
    value?.mapM step = .ok result? ↔
      value? = none ∧ result? = none ∨
        ∃ value result, value? = some value ∧ step value = .ok result ∧ result? = some result := by
  cases value? with
  | none => simp [Pure.pure, Except.pure, eq_comm]
  | some value =>
      rw [Option.mapM_some]
      cases stepped : step value with
      | error error => simp [Functor.map, Except.map, stepped]
      | ok result => simp [Functor.map, Except.map, stepped, eq_comm]

/-- A step for each value comes to a result for each, in order, or to none at all. -/
theorem mapM_eq_ok_iff {step : α → Except ε β} {values : List α} {results : List β} :
    values.mapM step = .ok results ↔
      List.Forall₂ (fun value result => step value = .ok result) values results := by
  induction values generalizing results with
  | nil => cases results <;> simp [Pure.pure, Except.pure]
  | cons value rest ih =>
      simp only [List.mapM_cons, bind_eq_ok_iff, List.forall₂_cons_left_iff]
      constructor
      · rintro ⟨result, first, later, others, ended⟩
        cases ended
        exact ⟨result, later, first, ih.mp others, rfl⟩
      · rintro ⟨result, later, first, others, rfl⟩
        exact ⟨result, first, later, ih.mpr others, rfl⟩

/-- A step that comes to a result. -/
def Succeeds (step : Except ε α) : Prop :=
  ∃ value, step = .ok value

/-- Where there are results for all values, there is one for each. -/
theorem succeeds_of_mem {step : α → Except ε β} {values : List α} {value : α}
    (all : Succeeds (values.mapM step)) (among : value ∈ values) : Succeeds (step value) := by
  obtain ⟨results, stepped⟩ := all
  rw [mapM_eq_ok_iff] at stepped
  induction stepped with
  | nil => cases among
  | cons first _ ih =>
      rcases List.mem_cons.mp among with rfl | later
      · exact ⟨_, first⟩
      · exact ih later

/-- A step that does not come to an error. -/
def Avoids (error : ε) (step : Except ε α) : Prop :=
  step ≠ .error error

namespace Avoids

variable {error : ε} {first : Except ε α} {next : α → Except ε β}

theorem ok (value : α) : Avoids error (.ok value) := by
  simp [Avoids]

theorem pure (value : α) : Avoids error (Pure.pure value : Except ε α) :=
  ok value

theorem of_ne {other : ε} (ne : other ≠ error) : Avoids error (.error other : Except ε α) := by
  simpa [Avoids] using ne

/-- Behind a step that avoids an error, the error is one of the steps to come. -/
theorem bind_eq_error_iff (avoids : Avoids error first) :
    first >>= next = .error error ↔ ∃ value, first = .ok value ∧ next value = .error error := by
  rw [Stepwise.bind_eq_error_iff]
  constructor
  · rintro (failed | later)
    · exact absurd failed avoids
    · exact later
  · exact .inr

theorem bind (avoids : Avoids error first) (later : ∀ value, Avoids error (next value)) :
    Avoids error (first >>= next) := by
  intro failed
  obtain ⟨value, -, there⟩ := avoids.bind_eq_error_iff.mp failed
  exact later value there

theorem map (avoids : Avoids error first) (change : α → β) : Avoids error (first.map change) := by
  cases first with
  | error other => simpa [Avoids, Except.map] using avoids
  | ok value => exact ok _

theorem mapM {step : α → Except ε β} (avoids : ∀ value, Avoids error (step value))
    (values : List α) : Avoids error (values.mapM step) := by
  induction values with
  | nil => exact pure _
  | cons value rest ih =>
      rw [List.mapM_cons]
      exact (avoids value).bind fun result => ih.bind fun results => pure _

end Avoids

end GuardedInstall.Stepwise
