/-
This file is the endless runs of a machine, for the facts that say what happens in the end.

A trace is a state for each point of time with the action taken there. Fairness is a hypothesis
on a trace, stated by who needs it; the rules below carry a fact along a trace until something
else happens.
-/

import OpenClaw.Base.Steps

namespace Machine

variable {State Action : Type*}

/-- An endless run under a guard. -/
structure Trace (step : State → Action → Option State) (guard : State → Action → Prop)
    (start : State) where
  states : ℕ → State
  actions : ℕ → Action
  starts : states 0 = start
  admitted : ∀ time, guard (states time) (actions time)
  taken : ∀ time, step (states time) (actions time) = some (states (time + 1))

namespace Trace

variable {step : State → Action → Option State} {guard : State → Action → Prop} {start : State}

/-- What every admitted step preserves holds at all times. -/
theorem invariant (trace : Trace step guard start) {Invariant : State → Prop}
    (preserved : ∀ state action next, Invariant state → guard state action →
      step state action = some next → Invariant next)
    (initially : Invariant start) (time : ℕ) : Invariant (trace.states time) := by
  induction time with
  | zero =>
    rw [trace.starts]
    exact initially
  | succ time inductionHypothesis =>
    exact preserved _ _ _ inductionHypothesis (trace.admitted time) (trace.taken time)

/-- What each step keeps unless something happens, lasts or the thing happens. -/
theorem lasts_or_happens (Holds Happens : ℕ → Prop) {first : ℕ} (initially : Holds first)
    (kept : ∀ time, first ≤ time → Holds time → Happens time ∨ Holds (time + 1)) :
    ∀ later, first ≤ later → (∃ time, first ≤ time ∧ time < later ∧ Happens time) ∨ Holds later := by
  intro later reached
  induction later, reached using Nat.le_induction with
  | base => exact .inr initially
  | succ later reached inductionHypothesis =>
    obtain ⟨time, after, early, happens⟩ | holds := inductionHypothesis
    · exact .inl ⟨time, after, Nat.lt_succ_of_lt early, happens⟩
    · obtain happens | holds := kept later reached holds
      · exact .inl ⟨later, reached, Nat.lt_succ_self later, happens⟩
      · exact .inr holds

end Trace

end Machine
