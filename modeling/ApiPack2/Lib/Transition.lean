import Mathlib.Logic.Basic
import Mathlib.Data.List.Basic

/-!
# Runs of a deterministic step function

A system is a state type with a step function that takes an action. A run folds a list of
actions over a start state. Two predicates of runs carry every result built on this module:
`Along` says that a property holds of each state a run reaches, `Steps` that each step taken
satisfies a condition on the state before it and its action. The rules below pass from one
step to whole runs.
-/

namespace Transition

variable {σ α : Type*} (step : σ → α → σ)

/-- The state after the actions, taken in order. -/
def run (start : σ) (actions : List α) : σ := actions.foldl step start

/-- The property holds of every state reached, the first and the last included. -/
def Along (property : σ → Prop) : σ → List α → Prop
  | state, [] => property state
  | state, action :: actions => property state ∧ Along property (step state action) actions

/-- Every step taken satisfies the condition on the state before it and its action. -/
def Steps (condition : σ → α → Prop) : σ → List α → Prop
  | _, [] => True
  | state, action :: actions =>
    condition state action ∧ Steps condition (step state action) actions

/-- Decidable properties are decidable along runs. -/
instance decidableAlong (property : σ → Prop) [DecidablePred property] :
    ∀ start actions, Decidable (Along step property start actions)
  | start, [] => inferInstanceAs (Decidable (property start))
  | start, action :: actions =>
    have := decidableAlong property (step start action) actions
    inferInstanceAs (Decidable (_ ∧ _))

/-- Decidable conditions are decidable on the steps of runs. -/
instance decidableSteps (condition : σ → α → Prop)
    [∀ state action, Decidable (condition state action)] :
    ∀ start actions, Decidable (Steps step condition start actions)
  | _, [] => inferInstanceAs (Decidable True)
  | start, action :: actions =>
    have := decidableSteps condition (step start action) actions
    inferInstanceAs (Decidable (_ ∧ _))

/-- What the steps of a run stand for, one after another; a step may stand for nothing. -/
def labels {κ : Type*} (label : σ → α → Option κ) : σ → List α → List κ
  | _, [] => []
  | state, action :: actions =>
    (label state action).toList ++ labels label (step state action) actions

variable {step}

@[simp]
theorem run_nil (start : σ) : run step start ([] : List α) = start := rfl

@[simp]
theorem run_cons (start : σ) (action : α) (actions : List α) :
    run step start (action :: actions) = run step (step start action) actions := rfl

/-- Two runs in a row are one run. -/
theorem run_append (start : σ) (first second : List α) :
    run step start (first ++ second) = run step (run step start first) second :=
  List.foldl_append

/-- The condition on the steps of two runs in a row splits at the state between them. -/
theorem steps_append {condition : σ → α → Prop} (start : σ) (first second : List α) :
    Steps step condition start (first ++ second) ↔
      Steps step condition start first ∧
        Steps step condition (run step start first) second := by
  induction first generalizing start with
  | nil => simp [Steps]
  | cons action actions ih => simp [Steps, ih, and_assoc]

/-- A property of every state reached holds of the first. -/
theorem Along.first {property : σ → Prop} {start : σ} {actions : List α}
    (along : Along step property start actions) : property start := by
  cases actions with
  | nil => exact along
  | cons action actions => exact along.1

/-- A property of every state reached holds of the last. -/
theorem Along.last {property : σ → Prop} {start : σ} {actions : List α}
    (along : Along step property start actions) : property (run step start actions) := by
  induction actions generalizing start with
  | nil => exact along
  | cons action actions ih => exact ih along.2

/-- Weaker properties hold of the same states. -/
theorem Along.mono {property weaker : σ → Prop} {start : σ} {actions : List α}
    (along : Along step property start actions)
    (weaken : ∀ state, property state → weaker state) : Along step weaker start actions := by
  induction actions generalizing start with
  | nil => exact weaken _ along
  | cons action actions ih => exact ⟨weaken _ along.1, ih along.2⟩

/-- Weaker conditions hold of the same steps. -/
theorem Steps.mono {condition weaker : σ → α → Prop} {start : σ} {actions : List α}
    (steps : Steps step condition start actions)
    (weaken : ∀ state action, condition state action → weaker state action) :
    Steps step weaker start actions := by
  induction actions generalizing start with
  | nil => trivial
  | cons action actions ih => exact ⟨weaken _ _ steps.1, ih steps.2⟩

/-- A condition that holds of every step holds of the steps of each run. -/
theorem steps_of_forall {condition : σ → α → Prop} (holds : ∀ state action, condition state action)
    (start : σ) (actions : List α) : Steps step condition start actions := by
  induction actions generalizing start with
  | nil => trivial
  | cons action actions ih => exact ⟨holds _ _, ih _⟩

/-- A condition that holds of every action of a run, whatever the state, holds of its steps. -/
theorem steps_of_mem {condition : σ → α → Prop} {actions : List α}
    (holds : ∀ action ∈ actions, ∀ state, condition state action) (start : σ) :
    Steps step condition start actions := by
  induction actions generalizing start with
  | nil => trivial
  | cons action actions ih =>
    have first := holds action (List.mem_cons_self ..)
    have rest := fun other later => holds other (List.mem_cons_of_mem _ later)
    exact ⟨first _, ih rest _⟩

/-- Two conditions on the steps of a run are one. -/
theorem Steps.and {left right : σ → α → Prop} {start : σ} {actions : List α}
    (first : Steps step left start actions) (second : Steps step right start actions) :
    Steps step (fun state action => left state action ∧ right state action) start actions := by
  induction actions generalizing start with
  | nil => trivial
  | cons action actions ih => exact ⟨⟨first.1, second.1⟩, ih first.2 second.2⟩

/-- A condition that holds of the assumed steps from where an invariant holds, which they keep,
holds of the steps of a run of assumed steps. -/
theorem Steps.of_invariant {invariant : σ → Prop} {assumed condition : σ → α → Prop}
    (keeps : ∀ state action, invariant state → assumed state action →
      invariant (step state action))
    (holds : ∀ state action, invariant state → assumed state action → condition state action)
    {start : σ} (initial : invariant start) {actions : List α}
    (steps : Steps step assumed start actions) : Steps step condition start actions := by
  induction actions generalizing start with
  | nil => trivial
  | cons action actions ih =>
    exact ⟨holds _ _ initial steps.1, ih (keeps _ _ initial steps.1) steps.2⟩

/-- A property kept by every step that satisfies the condition holds along each run whose
steps satisfy it. -/
theorem along_of_steps {property : σ → Prop} {condition : σ → α → Prop}
    (keeps : ∀ state action, property state → condition state action →
      property (step state action))
    {start : σ} {actions : List α} (initial : property start)
    (steps : Steps step condition start actions) : Along step property start actions := by
  induction actions generalizing start with
  | nil => exact initial
  | cons action actions ih => exact ⟨initial, ih (keeps _ _ initial steps.1) steps.2⟩

/-- A property kept by every step holds along each run. -/
theorem along_of_invariant {property : σ → Prop}
    (keeps : ∀ state action, property state → property (step state action))
    {start : σ} (initial : property start) (actions : List α) :
    Along step property start actions := by
  induction actions generalizing start with
  | nil => exact initial
  | cons action actions ih => exact ⟨initial, ih (keeps _ _ initial)⟩

/-- A property kept by every step holds at the end of each run. -/
theorem run_invariant {property : σ → Prop}
    (keeps : ∀ state action, property state → property (step state action))
    {start : σ} (initial : property start) (actions : List α) :
    property (run step start actions) :=
  (along_of_invariant keeps initial actions).last

/-- Two step conditions that agree wherever an invariant holds agree on whole runs. -/
theorem steps_congr {invariant : σ → Prop} {left right : σ → α → Prop}
    (keeps : ∀ state action, invariant state → invariant (step state action))
    (agree : ∀ state action, invariant state → (left state action ↔ right state action))
    {start : σ} (initial : invariant start) (actions : List α) :
    Steps step left start actions ↔ Steps step right start actions := by
  induction actions generalizing start with
  | nil => exact Iff.rfl
  | cons action actions ih =>
    exact and_congr (agree _ _ initial) (ih (keeps _ _ initial))

/-- Two step conditions that agree on the assumed steps from where an invariant holds agree on
whole runs of assumed steps; the invariant need only be kept by steps that satisfy them. -/
theorem steps_congr_of_steps {invariant : σ → Prop} {assumed left right : σ → α → Prop}
    (keeps : ∀ state action, invariant state → assumed state action → right state action →
      invariant (step state action))
    (agree : ∀ state action, invariant state → assumed state action →
      (left state action ↔ right state action))
    {start : σ} (initial : invariant start) {actions : List α}
    (steps : Steps step assumed start actions) :
    Steps step left start actions ↔ Steps step right start actions := by
  induction actions generalizing start with
  | nil => exact Iff.rfl
  | cons action actions ih =>
    have first := agree _ _ initial steps.1
    constructor
    · rintro ⟨head, tail⟩
      have kept := keeps _ _ initial steps.1 (first.mp head)
      exact ⟨first.mp head, (ih kept steps.2).mp tail⟩
    · rintro ⟨head, tail⟩
      have kept := keeps _ _ initial steps.1 head
      exact ⟨first.mpr head, (ih kept steps.2).mpr tail⟩

/-- When each step keeps the property exactly if it satisfies the condition, the property
holds along a run exactly if all its steps satisfy the condition. -/
theorem along_iff_steps {invariant property : σ → Prop} {condition : σ → α → Prop}
    (keeps : ∀ state action, invariant state → invariant (step state action))
    (exact_step : ∀ state action, invariant state → property state →
      (property (step state action) ↔ condition state action))
    {start : σ} (initial : invariant start) (holds : property start) (actions : List α) :
    Along step property start actions ↔ Steps step condition start actions := by
  induction actions generalizing start with
  | nil => exact ⟨fun _ => trivial, fun _ => holds⟩
  | cons action actions ih =>
    constructor
    · intro along
      have kept := (exact_step _ _ initial holds).mp along.2.first
      exact ⟨kept, (ih (keeps _ _ initial) along.2.first).mp along.2⟩
    · intro steps
      have next := (exact_step _ _ initial holds).mpr steps.1
      exact ⟨holds, (ih (keeps _ _ initial) next).mpr steps.2⟩

end Transition
