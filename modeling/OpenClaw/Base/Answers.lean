/-
This file is what a chain of checks says when it has gone through: each check was passed, and the
answer is that of the last step.
-/

import Mathlib

namespace Answer

variable {Error First Second : Type}

theorem bind_eq_ok_iff {answer : Except Error First} {next : First → Except Error Second}
    {result : Second} :
    answer >>= next = .ok result ↔ ∃ value, answer = .ok value ∧ next value = .ok result := by
  cases answer with
  | error refusal => exact ⟨(nomatch ·), fun ⟨_, same, _⟩ => nomatch same⟩
  | ok value =>
    refine ⟨fun same => ⟨value, rfl, same⟩, ?_⟩
    rintro ⟨other, same, result⟩
    obtain rfl := Except.ok.inj same
    exact result

/-- A check that refuses was passed. -/
theorem refuse_eq_ok_iff {refuses : Prop} [Decidable refuses] {refusal : Error}
    {next : Except Error First} {result : First} :
    (if refuses then .error refusal else next) = .ok result ↔ ¬ refuses ∧ next = .ok result := by
  split
  next is => exact ⟨(nomatch ·), fun passed => absurd is passed.1⟩
  next passed => exact (and_iff_right passed).symm

end Answer
