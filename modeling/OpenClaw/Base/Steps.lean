/-
This file is the run layer every machine of the development shares: a partial
step function on states, the runs it generates, and the rules that lift a fact
about one step to a fact about a whole run.

A step function `step : State → Action → Option State` puts all the
nondeterminism of a machine into its actions: which party moves, what the clock
reads, which external call fails. A run is a list of actions. `Steps` carries a
guard, so "every step of the run meets the condition" is part of the run itself
and the condition is never smuggled into the step function. The unguarded run
is `Steps step Unguarded`, and `execute` is its executable form, which closed
runs are evaluated with.
-/

import Mathlib

namespace Machine

variable {State Action : Type*}

/-- The guard that admits every step. -/
def Unguarded : State → Action → Prop := fun _ _ => True

/-- Runs of a partial step function all of whose steps meet a guard. -/
inductive Steps (step : State → Action → Option State) (guard : State → Action → Prop) :
    State → List Action → State → Prop
  | nil (state : State) : Steps step guard state [] state
  | cons {state middle final : State} {action : Action} {rest : List Action}
      (admitted : guard state action) (taken : step state action = some middle)
      (tail : Steps step guard middle rest final) :
      Steps step guard state (action :: rest) final

/-- The states a machine can reach from `start`. -/
def Reachable (step : State → Action → Option State) (start final : State) : Prop :=
  ∃ actions, Steps step Unguarded start actions final

/-- Running a list of actions, stopping at the first one that is not enabled. -/
def execute (step : State → Action → Option State) : State → List Action → Option State
  | state, [] => some state
  | state, action :: rest => (step state action).bind fun middle => execute step middle rest

/-- Running a list of actions, stopping at the first one that is not admitted or not enabled. -/
def executeUnder (step : State → Action → Option State) (admits : State → Action → Bool) :
    State → List Action → Option State
  | state, [] => some state
  | state, action :: rest =>
    if admits state action then (step state action).bind fun middle => executeUnder step admits middle rest
    else none

section Rules

variable {step : State → Action → Option State} {guard : State → Action → Prop}

theorem Steps.single {state final : State} {action : Action} (admitted : guard state action)
    (taken : step state action = some final) : Steps step guard state [action] final :=
  .cons admitted taken (.nil final)

theorem Steps.append {start middle final : State} {first second : List Action}
    (front : Steps step guard start first middle) (back : Steps step guard middle second final) :
    Steps step guard start (first ++ second) final := by
  induction front with
  | nil state => exact back
  | cons admitted taken tail inductionHypothesis =>
    exact .cons admitted taken (inductionHypothesis back)

theorem Steps.split {start final : State} {first second : List Action}
    (run : Steps step guard start (first ++ second) final) :
    ∃ middle, Steps step guard start first middle ∧ Steps step guard middle second final := by
  induction first generalizing start with
  | nil => exact ⟨start, .nil start, run⟩
  | cons action rest inductionHypothesis =>
    cases run with
    | cons admitted taken tail =>
      obtain ⟨middle, front, back⟩ := inductionHypothesis tail
      exact ⟨middle, .cons admitted taken front, back⟩

/-- A guard may be weakened along a run. -/
theorem Steps.weaken {weaker : State → Action → Prop} {start final : State}
    {actions : List Action} (run : Steps step guard start actions final)
    (implies : ∀ state action, guard state action → weaker state action) :
    Steps step weaker start actions final := by
  induction run with
  | nil state => exact .nil state
  | cons admitted taken tail inductionHypothesis =>
    exact .cons (implies _ _ admitted) taken inductionHypothesis

/-- A run all of whose actions meet a guard in every state is a run under that guard. -/
theorem Steps.promote {stronger : State → Action → Prop} {start final : State}
    {actions : List Action} (run : Steps step guard start actions final)
    (admitted : ∀ action ∈ actions, ∀ state, stronger state action) :
    Steps step stronger start actions final := by
  induction run with
  | nil state => exact .nil state
  | @cons state middle final action rest _ taken tail inductionHypothesis =>
    exact .cons (admitted action List.mem_cons_self state) taken
      (inductionHypothesis fun later member => admitted later (List.mem_cons_of_mem action member))

/-- The invariant rule: what every admitted step preserves holds at the end of every run. -/
theorem Steps.invariant {Invariant : State → Prop}
    (preserved : ∀ state action next, Invariant state → guard state action →
      step state action = some next → Invariant next)
    {start final : State} {actions : List Action} (run : Steps step guard start actions final)
    (initially : Invariant start) : Invariant final := by
  induction run with
  | nil state => exact initially
  | cons admitted taken tail inductionHypothesis =>
    exact inductionHypothesis (preserved _ _ _ initially admitted taken)

/-- Evaluating a list of actions to a state is a run to that state. -/
theorem steps_of_execute {start final : State} {actions : List Action}
    (evaluates : execute step start actions = some final) :
    Steps step Unguarded start actions final := by
  induction actions generalizing start with
  | nil =>
    simp only [execute, Option.some.injEq] at evaluates
    exact evaluates ▸ .nil start
  | cons action rest inductionHypothesis =>
    simp only [execute, Option.bind_eq_some_iff] at evaluates
    obtain ⟨middle, taken, remaining⟩ := evaluates
    exact .cons trivial taken (inductionHypothesis remaining)

/-- Evaluating a list of actions under a guard is a run under that guard. -/
theorem steps_of_executeUnder {admits : State → Action → Bool} {start final : State}
    {actions : List Action} (evaluates : executeUnder step admits start actions = some final) :
    Steps step (fun state action => admits state action = true) start actions final := by
  induction actions generalizing start with
  | nil =>
    simp only [executeUnder, Option.some.injEq] at evaluates
    exact evaluates ▸ .nil start
  | cons action rest inductionHypothesis =>
    simp only [executeUnder, Option.ite_none_right_eq_some, Option.bind_eq_some_iff] at evaluates
    obtain ⟨admitted, middle, taken, remaining⟩ := evaluates
    exact .cons admitted taken (inductionHypothesis remaining)

theorem reachable_of_execute {start final : State} {actions : List Action}
    (evaluates : execute step start actions = some final) : Reachable step start final :=
  ⟨actions, steps_of_execute evaluates⟩

/-- What every step preserves holds in every reachable state. -/
theorem Reachable.invariant {Invariant : State → Prop}
    (preserved : ∀ state action next, Invariant state → step state action = some next →
      Invariant next)
    {start final : State} (reachable : Reachable step start final)
    (initially : Invariant start) : Invariant final := by
  obtain ⟨actions, run⟩ := reachable
  exact run.invariant (fun state action next held _ => preserved state action next held)
    initially

end Rules

end Machine
