/-
This file is values that carry a revision number, and the log of what has been told of them.

A value moves on when its revision goes up, and stays when neither changes. As long as a value
does nothing else, the log identifies it: revisions never go down, and two entries with one
revision tell of one value.
-/

import Mathlib

namespace Revisions

variable {Value : Type*}

/-- A value with its revision. -/
abbrev Versioned (Value : Type*) := ℕ × Value

/-- The second stands for the first, or for something with a higher revision. -/
def Advances (earlier later : Versioned Value) : Prop := later = earlier ∨ earlier.1 < later.1

theorem Advances.refl (current : Versioned Value) : Advances current current := Or.inl rfl

theorem Advances.trans {first second third : Versioned Value} (front : Advances first second)
    (back : Advances second third) : Advances first third := by
  rcases front with rfl | higher
  · exact back
  · rcases back with rfl | further
    · exact Or.inr higher
    · exact Or.inr (higher.trans further)

theorem Advances.le {earlier later : Versioned Value} (advances : Advances earlier later) :
    earlier.1 ≤ later.1 := by
  rcases advances with rfl | higher
  · exact le_rfl
  · exact higher.le

/-- One revision stands for one value. -/
theorem Advances.value_eq {earlier later : Versioned Value} (advances : Advances earlier later)
    (same : earlier.1 = later.1) : earlier.2 = later.2 := by
  rcases advances with rfl | higher
  · rfl
  · exact absurd same higher.ne

/-- A log of a value that has since become `current`. -/
structure Logged (log : List (Versioned Value)) (current : Versioned Value) : Prop where
  inOrder : log.Pairwise Advances
  behind : ∀ entry ∈ log, Advances entry current

theorem logged_nil (current : Versioned Value) : Logged [] current :=
  ⟨List.Pairwise.nil, fun _ member => absurd member List.not_mem_nil⟩

/-- What is logged stays so while the value moves on. -/
theorem Logged.advance {log : List (Versioned Value)} {current next : Versioned Value}
    (logged : Logged log current) (advances : Advances current next) : Logged log next :=
  ⟨logged.inOrder, fun entry member => (logged.behind entry member).trans advances⟩

/-- The value as it is may be logged. -/
theorem Logged.report {log : List (Versioned Value)} {current : Versioned Value}
    (logged : Logged log current) : Logged (log ++ [current]) current := by
  refine ⟨List.pairwise_append.2 ⟨logged.inOrder, List.pairwise_singleton _ _, ?_⟩, ?_⟩
  · intro entry member last isLast
    obtain rfl := List.mem_singleton.1 isLast
    exact logged.behind entry member
  · intro entry member
    rcases List.mem_append.1 member with inLog | isLast
    · exact logged.behind entry inLog
    · obtain rfl := List.mem_singleton.1 isLast
      exact Advances.refl _

end Revisions
