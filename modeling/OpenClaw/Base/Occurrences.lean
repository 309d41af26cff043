/-
This file is about a set of times on a line and a cursor: the first of them after the cursor, the
last of them before it, and what becomes of both when times and cursor are moved together.
-/

import Mathlib

namespace Occurrences

section Order

variable {Time : Type*} [LinearOrder Time]

/-- The first of some times after a cursor, and nothing where there is none. -/
def NextAfter (times : Set Time) (cursor : Time) : Option Time → Prop
  | some next => IsLeast {time ∈ times | cursor < time} next
  | none => ∀ time ∈ times, time ≤ cursor

/-- The last of some times before a cursor, and nothing where there is none. -/
def LastBefore (times : Set Time) (cursor : Time) : Option Time → Prop
  | some last => IsGreatest {time ∈ times | time < cursor} last
  | none => ∀ time ∈ times, cursor ≤ time

variable {times : Set Time} {cursor : Time}

theorem NextAfter.lt {next : Time} (isNext : NextAfter times cursor (some next)) : cursor < next :=
  isNext.1.2

theorem LastBefore.lt {last : Time} (isLast : LastBefore times cursor (some last)) :
    last < cursor :=
  isLast.1.2

/-- Between the last time before a cursor and the first after it there is at most the cursor. -/
theorem NextAfter.adjacent {last next time : Time} (isNext : NextAfter times cursor (some next))
    (isLast : LastBefore times cursor (some last)) (occurs : time ∈ times) (after : last < time)
    (before : time < next) : time = cursor := by
  rcases lt_trichotomy time cursor with earlier | same | later
  · exact absurd (isLast.2 ⟨occurs, earlier⟩) (not_le.2 after)
  · exact same
  · exact absurd (isNext.2 ⟨occurs, later⟩) (not_le.2 before)

end Order

section Shift

variable {Time : Type*} [AddCommGroup Time]

/-- Times that are all moved by the same offset. -/
def shifted (times : Set Time) (offset : Time) : Set Time := (· + offset) '' times

variable {times : Set Time}

theorem mem_shifted_iff {offset time : Time} :
    time ∈ shifted times offset ↔ time - offset ∈ times := by
  refine ⟨?_, fun occurs => ⟨time - offset, occurs, sub_add_cancel time offset⟩⟩
  rintro ⟨original, occurs, rfl⟩
  rwa [add_sub_cancel_right]

@[simp] theorem shifted_zero : shifted times 0 = times := by
  ext time
  rw [mem_shifted_iff, sub_zero]

variable [LinearOrder Time] [IsOrderedAddMonoid Time] {cursor : Time}

theorem NextAfter.shift {next : Option Time} (isNext : NextAfter times cursor next)
    (offset : Time) :
    NextAfter (shifted times offset) (cursor + offset) (next.map (· + offset)) := by
  cases next with
  | none =>
    intro time occurs
    exact sub_le_iff_le_add.1 (isNext _ (mem_shifted_iff.1 occurs))
  | some next =>
    refine ⟨⟨⟨next, isNext.1.1, rfl⟩, add_lt_add_left isNext.1.2 offset⟩, ?_⟩
    rintro time ⟨occurs, after⟩
    exact le_sub_iff_add_le.1
      (isNext.2 ⟨mem_shifted_iff.1 occurs, lt_sub_iff_add_lt.2 after⟩)

theorem LastBefore.shift {last : Option Time} (isLast : LastBefore times cursor last)
    (offset : Time) :
    LastBefore (shifted times offset) (cursor + offset) (last.map (· + offset)) := by
  cases last with
  | none =>
    intro time occurs
    exact le_sub_iff_add_le.1 (isLast _ (mem_shifted_iff.1 occurs))
  | some last =>
    refine ⟨⟨⟨last, isLast.1.1, rfl⟩, add_lt_add_left isLast.1.2 offset⟩, ?_⟩
    rintro time ⟨occurs, before⟩
    exact sub_le_iff_le_add.1
      (isLast.2 ⟨mem_shifted_iff.1 occurs, sub_lt_iff_lt_add.2 before⟩)

end Shift

end Occurrences
