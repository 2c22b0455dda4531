import Mathlib.Data.List.Forall2

/-!
# Runs that may fail

A run that binds others succeeds exactly when they do, and the first of them
that fails decides.
-/

namespace WorkloadPolicy
namespace Outcome

variable {ε α β : Type}

theorem bind_eq_ok_iff {run : Except ε α} {next : α → Except ε β} {result : β} :
    run >>= next = .ok result ↔ ∃ value, run = .ok value ∧ next value = .ok result := by
  cases run <;> simp [bind, Except.bind]

theorem bind_eq_error_iff {run : Except ε α} {next : α → Except ε β} {error : ε} :
    run >>= next = .error error ↔
      run = .error error ∨ ∃ value, run = .ok value ∧ next value = .error error := by
  cases run <;> simp [bind, Except.bind]

theorem map_eq_ok_iff {run : Except ε α} {change : α → β} {result : β} :
    run.map change = .ok result ↔ ∃ value, run = .ok value ∧ change value = result := by
  cases run <;> simp [Except.map]

theorem mapError_eq_ok_iff {δ : Type} {run : Except ε α} {change : ε → δ} {result : α} :
    run.mapError change = .ok result ↔ run = .ok result := by
  cases run <;> simp [Except.mapError]

/-- A run over a list succeeds when every step does, with their results in
order. -/
theorem mapM_eq_ok_iff {step : α → Except ε β} {inputs : List α} {results : List β} :
    inputs.mapM step = .ok results ↔
      List.Forall₂ (fun input result => step input = .ok result) inputs results := by
  induction inputs generalizing results with
  | nil =>
      rw [List.mapM_nil, List.forall₂_nil_left_iff]
      exact ⟨fun equal => (Except.ok.inj equal).symm, fun equal => by rw [equal]; rfl⟩
  | cons input inputs hypothesis =>
      rw [List.mapM_cons, bind_eq_ok_iff, List.forall₂_cons_left_iff]
      constructor
      · rintro ⟨first, firstRun, rest⟩
        obtain ⟨others, othersRun, equal⟩ := bind_eq_ok_iff.1 rest
        exact ⟨first, others, firstRun, hypothesis.1 othersRun, (Except.ok.inj equal).symm⟩
      · rintro ⟨first, others, firstRun, othersRun, rfl⟩
        exact ⟨first, firstRun, bind_eq_ok_iff.2 ⟨others, hypothesis.2 othersRun, rfl⟩⟩

/-- If every step succeeds with a result of some property, so does the run, with
results in order. -/
theorem exists_mapM_eq_ok
    {step : α → Except ε β}
    {property : α → β → Prop}
    {inputs : List α}
    (each : ∀ input ∈ inputs, ∃ result, step input = .ok result ∧ property input result) :
    ∃ results, inputs.mapM step = .ok results ∧ List.Forall₂ property inputs results := by
  induction inputs with
  | nil => exact ⟨[], rfl, .nil⟩
  | cons input inputs hypothesis =>
      obtain ⟨first, others⟩ := List.forall_mem_cons.1 each
      obtain ⟨result, run, holds⟩ := first
      obtain ⟨results, othersRun, allHold⟩ := hypothesis others
      refine ⟨result :: results, mapM_eq_ok_iff.2 (.cons run ?_), .cons holds allHold⟩
      exact mapM_eq_ok_iff.1 othersRun

/-- If the steps that fail all fail in one way, and one does, the run fails in that
way. -/
theorem mapM_eq_error
    {step : α → Except ε β}
    {inputs : List α}
    {error : ε}
    (each : ∀ input ∈ inputs, (∃ result, step input = .ok result) ∨ step input = .error error)
    (failing : ∃ input ∈ inputs, step input = .error error) :
    inputs.mapM step = .error error := by
  induction inputs with
  | nil => simp at failing
  | cons input inputs hypothesis =>
      obtain ⟨first, others⟩ := List.forall_mem_cons.1 each
      rw [List.mapM_cons, bind_eq_error_iff]
      rcases first with ⟨result, run⟩ | failed
      · obtain ⟨later, member, failed⟩ := failing
        rcases List.mem_cons.1 member with rfl | inInputs
        · rw [run] at failed
          simp at failed
        · refine .inr ⟨result, run, bind_eq_error_iff.2 (.inl ?_)⟩
          exact hypothesis others ⟨later, inInputs, failed⟩
      · exact .inl failed

/-- What every step grants of its result holds of all results. -/
theorem forall_of_mapM_eq_ok
    {step : α → Except ε β}
    {inputs : List α}
    {results : List β}
    {property : β → Prop}
    (run : inputs.mapM step = .ok results)
    (grants : ∀ input ∈ inputs, ∀ result, step input = .ok result → property result) :
    ∀ result ∈ results, property result := by
  have steps := mapM_eq_ok_iff.1 run
  clear run
  induction steps with
  | nil => simp
  | cons first _ hypothesis =>
      obtain ⟨head, tail⟩ := List.forall_mem_cons.1 grants
      exact List.forall_mem_cons.2 ⟨head _ first, hypothesis tail⟩

/-- Every result of a run over a list is that of one of its steps. -/
theorem exists_input_of_mem
    {step : α → Except ε β}
    {inputs : List α}
    {results : List β}
    (run : inputs.mapM step = .ok results)
    {result : β}
    (member : result ∈ results) :
    ∃ input ∈ inputs, step input = .ok result := by
  have each : ∀ result ∈ results, ∃ input ∈ inputs, step input = .ok result :=
    forall_of_mapM_eq_ok run fun input inInputs _ stepRun => ⟨input, inInputs, stepRun⟩
  exact each result member

/-- Every step of a run over a list has a result. -/
theorem exists_result_of_mem
    {step : α → Except ε β}
    {inputs : List α}
    {results : List β}
    (run : inputs.mapM step = .ok results)
    {input : α}
    (member : input ∈ inputs) :
    ∃ result ∈ results, step input = .ok result := by
  have steps := mapM_eq_ok_iff.1 run
  clear run
  induction steps with
  | nil => simp at member
  | cons first _ hypothesis =>
      rcases List.mem_cons.1 member with rfl | inInputs
      · exact ⟨_, List.mem_cons_self, first⟩
      · obtain ⟨result, inResults, stepRun⟩ := hypothesis inInputs
        exact ⟨result, List.mem_cons_of_mem _ inResults, stepRun⟩

/-- What every step keeps of its input is kept in order. -/
theorem map_of_mapM_eq_ok
    {γ : Type}
    {step : α → Except ε β}
    {inputs : List α}
    {results : List β}
    {before : α → γ}
    {after : β → γ}
    (run : inputs.mapM step = .ok results)
    (keeps : ∀ input result, step input = .ok result → after result = before input) :
    results.map after = inputs.map before := by
  have steps := mapM_eq_ok_iff.1 run
  clear run
  induction steps with
  | nil => rfl
  | cons first _ hypothesis => rw [List.map_cons, List.map_cons, keeps _ _ first, hypothesis]

/-! ## Failures -/

/-- How a run fails, if it does. -/
def failure? : Except ε α → Option ε
  | .ok _ => none
  | .error error => some error

@[simp] theorem failure?_ok (result : α) : failure? (.ok result : Except ε α) = none := rfl

@[simp] theorem failure?_error (error : ε) :
    failure? (.error error : Except ε α) = some error := rfl

theorem failure?_eq_some_iff {run : Except ε α} {error : ε} :
    failure? run = some error ↔ run = .error error := by
  cases run <;> simp [failure?]

theorem failure?_eq_none_iff {run : Except ε α} :
    failure? run = none ↔ ∃ result, run = .ok result := by
  cases run <;> simp [failure?]

theorem failure?_map (run : Except ε α) (change : α → β) :
    failure? (run.map change) = failure? run := by
  cases run <;> rfl

theorem failure?_mapError {δ : Type} (run : Except ε α) (change : ε → δ) :
    failure? (run.mapError change) = (failure? run).map change := by
  cases run <;> rfl

/-- What follows a run matters only if the run succeeds. -/
theorem failure?_bind
    {run : Except ε α}
    {next : α → Except ε β}
    {later : Option ε}
    (after : ∀ value, run = .ok value → failure? (next value) = later) :
    failure? (run >>= next) = (failure? run).or later := by
  cases run with
  | error error => rfl
  | ok value => exact after value rfl

/-- A run over a list fails as the first of its steps that fails. -/
theorem failure?_mapM (step : α → Except ε β) (inputs : List α) :
    failure? (inputs.mapM step) = inputs.findSome? fun input => failure? (step input) := by
  induction inputs with
  | nil => rfl
  | cons input inputs hypothesis =>
      rw [List.mapM_cons, List.findSome?_cons, ← hypothesis]
      cases step input with
      | error error => rfl
      | ok value => cases inputs.mapM step <;> rfl

/-- Whatever a run fails with has a property. -/
structure FailsWith (property : ε → Prop) (run : Except ε α) : Prop where
  of_eq_error : ∀ error, run = .error error → property error

namespace FailsWith

variable {property : ε → Prop}

theorem ok (result : α) : FailsWith property (.ok result : Except ε α) where
  of_eq_error := by simp

theorem error {error : ε} (holds : property error) :
    FailsWith property (.error error : Except ε α) where
  of_eq_error := by
    rintro other ⟨⟩
    exact holds

theorem mono
    {weaker : ε → Prop}
    {run : Except ε α}
    (fails : FailsWith property run)
    (weakens : ∀ error, property error → weaker error) :
    FailsWith weaker run where
  of_eq_error error failed := weakens error (fails.of_eq_error error failed)

theorem bind
    {run : Except ε α}
    {next : α → Except ε β}
    (first : FailsWith property run)
    (others : ∀ value, FailsWith property (next value)) :
    FailsWith property (run >>= next) where
  of_eq_error error failed := by
    rcases bind_eq_error_iff.1 failed with inFirst | ⟨value, -, inNext⟩
    · exact first.of_eq_error error inFirst
    · exact (others value).of_eq_error error inNext

theorem map
    {run : Except ε α}
    (fails : FailsWith property run)
    (change : α → β) :
    FailsWith property (run.map change) where
  of_eq_error error failed := by
    apply fails.of_eq_error error
    rw [← failure?_eq_some_iff, ← failure?_map run change, failed, failure?_error]

theorem mapM
    {step : α → Except ε β}
    {inputs : List α}
    (each : ∀ input ∈ inputs, FailsWith property (step input)) :
    FailsWith property (inputs.mapM step) where
  of_eq_error error failed := by
    have first := failure?_mapM step inputs
    rw [failed, failure?_error] at first
    obtain ⟨input, member, inStep⟩ := List.exists_of_findSome?_eq_some first.symm
    exact (each input member).of_eq_error error (failure?_eq_some_iff.1 inStep)

end FailsWith
end Outcome
end WorkloadPolicy
